/-! # JSON values

Values of the JSON data format. A number keeps the way it was written: with a
fraction or an exponent it is a floating-point number, else an integer. The
members of an object stand in the order of their keys, and no key stands twice.
-/

namespace Monthwise

/-- A JSON value. -/
inductive Json where
  | null
  | bool (b : Bool)
  | int (n : Int)
  | float (x : Float)
  | str (s : String)
  | arr (items : List Json)
  | obj (members : List (String × Json))

namespace Json

mutual

/-- Values are equal as data: floating-point numbers by value, objects member by member. -/
def eq : Json → Json → Bool
  | .null, .null => true
  | .bool a, .bool b => a == b
  | .int m, .int n => m == n
  | .float x, .float y => x == y
  | .str s, .str t => s == t
  | .arr xs, .arr ys => eqItems xs ys
  | .obj xs, .obj ys => eqMembers xs ys
  | _, _ => false

/-- Lists of values, place by place. -/
def eqItems : List Json → List Json → Bool
  | [], [] => true
  | x :: xs, y :: ys => x.eq y && eqItems xs ys
  | _, _ => false

/-- Lists of members, place by place. -/
def eqMembers : List (String × Json) → List (String × Json) → Bool
  | [], [] => true
  | (k, x) :: xs, (l, y) :: ys => k == l && x.eq y && eqMembers xs ys
  | _, _ => false

end

instance : BEq Json := ⟨eq⟩

/-- Puts a member at its place in key order. A member with the same key gives way. -/
def insertMember (key : String) (value : Json) : List (String × Json) → List (String × Json)
  | [] => [(key, value)]
  | (k, v) :: rest =>
    if key < k then (key, value) :: (k, v) :: rest
    else if key = k then (key, value) :: rest
    else (k, v) :: insertMember key value rest

/-- The object with these members; of two with the same key the later one stays. -/
def ofMembers (members : List (String × Json)) : Json :=
  .obj (members.foldl (fun sorted m => insertMember m.1 m.2 sorted) [])

/-- The member of an object with this key. -/
def member? (key : String) : Json → Option Json
  | .obj members => members.lookup key
  | _ => none

end Json

end Monthwise
