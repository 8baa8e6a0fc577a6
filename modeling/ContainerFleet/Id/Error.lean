namespace ContainerFleet

inductive UlidError where
  | length
  | character
deriving DecidableEq, Repr

def UlidError.message : UlidError → String
  | .length => "invalid length"
  | .character => "invalid character"

inductive IdError where
  | empty
  | wrongTag (expected actual : String)
  | missingSeparator
  | badUlid (cause : UlidError)
  | nameTooLong (kind name : String) (max : Nat)
  | badCharacter (kind name : String) (character : Char)
deriving DecidableEq, Repr

namespace IdError

def message : IdError → String
  | empty => "ID cannot be empty"
  | wrongTag expected actual => s!"invalid ID prefix: expected '{expected}', got '{actual}'"
  | missingSeparator => "ID missing underscore separator"
  | badUlid cause => "invalid ULID: " ++ cause.message
  | nameTooLong kind name max => s!"{kind} '{name}' is longer than {max} characters"
  | badCharacter kind name character =>
    s!"{kind} '{name}' contains invalid character '{character}'"

def isEmpty : IdError → Bool
  | empty => true
  | _ => false

def isNameError : IdError → Bool
  | nameTooLong .. | badCharacter .. => true
  | _ => false

end IdError

end ContainerFleet
