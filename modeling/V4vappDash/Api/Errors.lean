import V4vappDash.Config

set_option autoImplicit false

/-! # API errors

How a request can fail (`api/errors.py`): with an `ApiError`, which the exception handler turns
into an answer, or with any other exception, which ends the request with status 500.
-/

namespace V4vappDash

/-- One window of a rejected rate limit check. -/
structure PeriodResult where
  hours : Int
  limitHours : Int
  limitSats : Int
  sats : Int
  satsPaid : Int
  satsRequested : Int
  limitOk : Bool
  limitPercent : Int
  limitText : String
  deriving DecidableEq

/-- The key `limit_check` that a rejected rate limit check adds to the body of the answer. The
periods are the items of a dictionary; `expiry` is a time, not its text. -/
structure LimitCheck where
  custId : String
  limitOk : Bool
  nextLimitExpiry : String
  expiry : Option Datetime
  satsFreed : Int
  periods : List (String × PeriodResult)
  deriving DecidableEq

structure ApiError where
  statusCode : Nat
  code : String
  message : String
  extra : Option LimitCheck := none
  deriving DecidableEq

/-- An exception that ends a request. -/
inductive Failure
  | api (error : ApiError)
  | crash (message : String)
  deriving DecidableEq

/-- The failure is the answer that an `external_id` exists already. -/
def Failure.isDuplicate : Failure → Bool
  | .api error => error.code = "duplicate_external_id"
  | .crash _ => false

end V4vappDash
