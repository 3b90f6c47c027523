/-!
# TOML values

What a configuration file says.  Numbers that are not whole, dates and times keep their spelling: no
setting has such a value.
-/

namespace AgentIntake

/-- A value of a configuration file.  What is `real` has a fraction or an exponent, is an infinity
or is not a number; a `moment` is a date, a time or both. -/
inductive Toml where
  | string (s : String)
  | integer (n : Int)
  | real (spelling : String)
  | bool (b : Bool)
  | moment (spelling : String)
  | array (items : List Toml)
  | table (entries : List (String × Toml))
  deriving Inhabited

end AgentIntake
