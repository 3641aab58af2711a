import Payments.Error

/-!
# Payments.Party -- who pays and who is paid

Both sides of a payment are companies with a name; neither the company nor the name may be blank.
The payer may leave an address for questions.
-/

namespace Payments

/-- The company that pays. -/
structure Payer where
  companyId : String
  name : String
  email : Option String
  phone : Option String
deriving DecidableEq

namespace Payer

/-- A payer with a company and a name. -/
def create (companyId name : String) (email phone : Option String) : Outcome Payer := do
  let companyId ← requireText "payer_company_id" companyId
  let name ← requireText "payer_name" name
  .ok { companyId, name, email, phone }

/-- Payers in JSON. -/
def codec : Json.Codec Payer :=
  .record
    (.cons (.required "company_id" .text Payer.companyId) <|
      .cons (.required "name" .text Payer.name) <|
      .cons (.optional "email" .text Payer.email) <|
      .cons (.optional "phone" .text Payer.phone) .nil)
    fun (companyId, name, email, phone, ()) => .ok { companyId, name, email, phone }

end Payer

/-- The company that is paid. -/
structure Payee where
  companyId : String
  name : String
deriving DecidableEq

namespace Payee

/-- A payee with a company and a name. -/
def create (companyId name : String) : Outcome Payee := do
  let companyId ← requireText "payee_company_id" companyId
  let name ← requireText "payee_name" name
  .ok { companyId, name }

/-- Payees in JSON. -/
def codec : Json.Codec Payee :=
  .record
    (.cons (.required "company_id" .text Payee.companyId) <|
      .cons (.required "name" .text Payee.name) .nil)
    fun (companyId, name, ()) => .ok { companyId, name }

end Payee

end Payments
