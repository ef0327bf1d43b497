import ExtensionAdmin.Json.Double

/-! Structured values. A value is null, a truth value, a number, a string, a sequence or an object.
The members of an object are a list of named values; a value is canonical when every object in it
has its names in strictly ascending order, which makes equality of values equality of what they
hold. -/

namespace ExtensionAdmin.Json

inductive Number where
  | int (value : Int)
  | float (value : Double)
deriving DecidableEq, Repr

namespace Number

def toDouble : Number → Double
  | .int i => Double.ofInt i
  | .float x => x

def render : Number → List Char
  | .int i => (toString i).toList
  | .float x => x.render

end Number

inductive Value where
  | null
  | bool (value : Bool)
  | number (value : Number)
  | string (value : String)
  | array (items : List Value)
  | object (members : List (String × Value))
deriving Repr, Inhabited

namespace Value

mutual

def same : Value → Value → Bool
  | .null, .null => true
  | .bool a, .bool b => a == b
  | .number a, .number b => a == b
  | .string a, .string b => a == b
  | .array a, .array b => sameItems a b
  | .object a, .object b => sameMembers a b
  | _, _ => false

def sameItems : List Value → List Value → Bool
  | [], [] => true
  | a :: as, b :: bs => same a b && sameItems as bs
  | _, _ => false

def sameMembers : List (String × Value) → List (String × Value) → Bool
  | [], [] => true
  | (j, a) :: as, (k, b) :: bs => j == k && same a b && sameMembers as bs
  | _, _ => false

end

mutual

theorem same_iff : ∀ a b : Value, same a b = true ↔ a = b
  | .null, b => by cases b <;> simp [same]
  | .bool a, b => by cases b <;> simp [same]
  | .number a, b => by cases b <;> simp [same]
  | .string a, b => by cases b <;> simp [same]
  | .array a, b => by cases b <;> simp [same, sameItems_iff a]
  | .object a, b => by cases b <;> simp [same, sameMembers_iff a]

theorem sameItems_iff : ∀ as bs : List Value, sameItems as bs = true ↔ as = bs
  | [], bs => by cases bs <;> simp [sameItems]
  | a :: as, bs => by
    cases bs with
    | nil => simp [sameItems]
    | cons b bs => simp [sameItems, same_iff a b, sameItems_iff as bs]

theorem sameMembers_iff : ∀ as bs : List (String × Value), sameMembers as bs = true ↔ as = bs
  | [], bs => by cases bs <;> simp [sameMembers]
  | (j, a) :: as, bs => by
    cases bs with
    | nil => simp [sameMembers]
    | cons b bs =>
      obtain ⟨k, b⟩ := b
      simp [sameMembers, same_iff a b, sameMembers_iff as bs]

end

instance : DecidableEq Value := fun a b => decidable_of_iff _ (same_iff a b)

end Value

abbrev Members := List (String × Value)

namespace Members

def get? (name : String) : Members → Option Value
  | [] => none
  | (k, v) :: rest => if k = name then some v else get? name rest

/-- Puts what `change` makes of the present value under a name, keeping the names in order. -/
def alter (name : String) (change : Option Value → Value) : Members → Members
  | [] => [(name, change none)]
  | (k, v) :: rest =>
    if k = name then (k, change (some v)) :: rest
    else if name < k then (name, change none) :: (k, v) :: rest
    else (k, v) :: alter name change rest

def insert (name : String) (value : Value) (ms : Members) : Members :=
  alter name (fun _ => value) ms

def ofList (ms : List (String × Value)) : Members :=
  ms.foldl (fun acc m => insert m.1 m.2 acc) []

def names (ms : Members) : List String :=
  ms.map (·.1)

end Members

namespace Value

mutual

def canonical : Value → Value
  | .array items => .array (canonicalItems items)
  | .object members => .object (canonicalMembers members)
  | v => v

def canonicalItems : List Value → List Value
  | [] => []
  | v :: rest => canonical v :: canonicalItems rest

def canonicalMembers (ms : List (String × Value)) : Members :=
  Members.ofList (canonicalEach ms)

def canonicalEach : List (String × Value) → List (String × Value)
  | [] => []
  | (k, v) :: rest => (k, canonical v) :: canonicalEach rest

end

def get? (name : String) : Value → Option Value
  | .object members => Members.get? name members
  | _ => none

def at? : List String → Value → Option Value
  | [], v => some v
  | name :: path, v => (v.get? name).bind (at? path)

def string? : Value → Option String
  | .string s => some s
  | _ => none

def bool? : Value → Option Bool
  | .bool b => some b
  | _ => none

def double? : Value → Option Double
  | .number n => some n.toDouble
  | _ => none

def object? : Value → Option Members
  | .object members => some members
  | _ => none

def array? : Value → Option (List Value)
  | .array items => some items
  | _ => none

def isScalar : Value → Bool
  | .array _ => false
  | .object _ => false
  | _ => true

/-- The items of a sequence; any other value is the single item of its list. -/
def toList : Value → List Value
  | .array items => items
  | v => [v]

end Value

end ExtensionAdmin.Json
