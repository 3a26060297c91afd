import SlideGraph.Json.Reader.Basic
import SlideGraph.Json.Value

/-!
# Readers of containers

Arrays and objects, read by one loop: `delimited` reads items between commas up to a closing
bracket. On it stand lists, maps, records, values that are read whole and values that are gone
over.
-/

namespace SlideGraph.Json

variable {α β κ σ : Type}

/-! ### Items between commas -/

/-- Go on after an item: up to the closing bracket, each further item behind a comma. What an item
is may depend on the items before it. -/
def delimitedRest (close : Char) (item : σ → Reader σ) (acc : σ) (s : List Char) : Step σ :=
  match _h : dropBlanks s with
  | [] => .error .truncated
  | c :: t =>
    if c = close then .ok (acc, t)
    else if c = ',' then
      match _hr : (item acc).read t with
      | .error e => .error e
      | .ok (acc', u) => delimitedRest close item acc' u
    else .error .malformed
termination_by s.length
decreasing_by
  have := length_lt_of_dropBlanks_eq_cons ‹_›
  have := Reader.shrinks _ ‹_›
  omega

theorem delimitedRest_length {close : Char} {item : σ → Reader σ} {acc b : σ} {s t : List Char}
    (h : delimitedRest close item acc s = .ok (b, t)) : t.length < s.length := by
  fun_induction delimitedRest close item acc s with
  | case1 => cases h
  | case2 acc s t' hs =>
    cases h; exact length_lt_of_dropBlanks_eq_cons hs
  | case3 => cases h
  | case4 acc s t' hs acc' u hr _ ih =>
    have := length_lt_of_dropBlanks_eq_cons ‹dropBlanks _ = _›
    have := Reader.shrinks _ ‹Reader.read _ _ = _›
    have := ih h
    omega
  | case5 => cases h

/-- Go on after an opening bracket: up to the closing one, with items between commas. -/
def delimitedFrom (close : Char) (item : σ → Reader σ) (acc : σ) (s : List Char) : Step σ :=
  match dropBlanks s with
  | [] => .error .truncated
  | c :: t =>
    if c = close then .ok (acc, t)
    else
      match (item acc).read (c :: t) with
      | .error e => .error e
      | .ok (acc, u) => delimitedRest close item acc u

theorem delimitedFrom_length {close : Char} {item : σ → Reader σ} {acc b : σ} {s t : List Char}
    (h : delimitedFrom close item acc s = .ok (b, t)) : t.length ≤ s.length := by
  unfold delimitedFrom at h
  split at h
  · cases h
  · rename_i h'
    have hlt := length_lt_of_dropBlanks_eq_cons h'
    split at h
    · cases h; exact Nat.le_of_lt hlt
    · split at h
      · cases h
      · rename_i hr
        have := (item acc).shrinks hr
        have := delimitedRest_length h
        have := length_dropBlanks_le s
        rw [h'] at this
        omega

namespace Tail

/-- The items after an opening bracket, up to the closing one. -/
def delimited (close : Char) (item : σ → Reader σ) (acc : σ) : Tail σ where
  read := delimitedFrom close item acc
  shrinks := delimitedFrom_length

def items (r : Reader α) : Tail (List α) :=
  (delimited ']' (fun acc => r.map (· :: acc)) []).map List.reverse

end Tail

namespace Reader

/-- A member of an object: its key, a colon, and the value that belongs to the key. Whether the
key may be there is decided before the colon is looked at. -/
def member (next : String → Except Fault (Reader α)) : Reader α := key.andThen fun k =>
  match next k with
  | .error e => .fail e
  | .ok r => (symbol ':').tail.andThen fun _ => r.tail

/-- An array of values. -/
def list (r : Reader α) : Reader (List α) := head.andThen fun
  | .openArray => .items r
  | _ => .fail .mismatch

/-- An object, each of whose members is put into the result as it is read. -/
def entries (put : String → α → σ → σ) (empty : σ) (r : Reader α) : Reader σ := head.andThen fun
  | .openObject =>
    .delimited '}' (fun acc => member fun k => .ok (r.map fun a => put k a acc)) empty
  | _ => .fail .mismatch

/-! ### Values that nobody asks for -/

/-- Go over a value in which at most `depth` brackets are open at a time. -/
def passTo : Nat → Reader Unit
  | 0 => opening.andThen fun
    | .scalar => .done ()
    | _ => .fail .malformed
  | depth + 1 => opening.andThen fun
    | .scalar => .done ()
    | .array => .delimited ']' (fun _ => passTo depth) ()
    | .object => .delimited '}' (fun _ =>
        (symbol '"').andThen fun _ => unquotedAway.tail.andThen fun _ =>
          (symbol ':').tail.andThen fun _ => (passTo depth).tail) ()

/-- Go over a value of any depth: a text has no more brackets than characters. -/
def ignored : Reader Unit where
  read s := (passTo s.length).read s
  shrinks {s _ _} h := (passTo s.length).shrinks h

/-! ### Values that are read whole -/

/-- Read a value whole. One in which more than `depth` brackets are open at a time is refused. -/
def value : Nat → Reader Value
  | 0 => head.andThen fun
    | .null => .done .null
    | .bool b => .done (.bool b)
    | .number n => .done (.number n)
    | .string s => .done (.string s)
    | _ => .fail .malformed
  | depth + 1 => head.andThen fun
    | .null => .done .null
    | .bool b => .done (.bool b)
    | .number n => .done (.number n)
    | .string s => .done (.string s)
    | .openArray => (Tail.items (value depth)).map .array
    | .openObject =>
      (Tail.delimited '}' (fun acc => member fun k =>
        .ok ((value depth).map fun v => (k, v) :: acc)) []).map fun ms => .object ms.reverse

/-- The brackets that may be open at a time in a text that is read whole. -/
def maxDepth : Nat := 127

/-! ### Records -/

end Reader

/-- A field of a record: its name, whether a draft of the record has it already, and how it is
read into a draft. -/
structure FieldReader (σ : Type) where
  name : String
  isFilled : σ → Bool
  fill : σ → Reader σ

/-- A field that is kept in a draft as an optional value. -/
def FieldReader.slot {σ α : Type} (name : String) (get : σ → Option α) (set : α → σ → σ)
    (r : Reader α) : FieldReader σ where
  name
  isFilled d := (get d).isSome
  fill d := r.map fun a => set a d

namespace Reader

/-- What follows a key of a record: the value of its field, unless the draft has it already. The
value of an unknown key is gone over. -/
def fieldOf (fields : List (FieldReader σ)) (draft : σ) (key : String) : Except Fault (Reader σ) :=
  match fields.find? (·.name == key) with
  | none => .ok (ignored.map fun _ => draft)
  | some f => if f.isFilled draft then .error .mismatch else .ok (f.fill draft)

/-- The item at the next position of a record that is written as an array, with the fields that
come after it. There is none after the last field. -/
def itemOf : σ × List (FieldReader σ) → Reader (σ × List (FieldReader σ))
  | (_, []) => .fail .malformed
  | (draft, f :: fs) => (f.fill draft).map (·, fs)

/-- A record, written as an object of its fields in any order or as an array of them in the order
of `fields`. Fields that are missing are for `finish` to replace. -/
def record (fields : List (FieldReader σ)) (blank : σ) (finish : σ → Option α) : Reader α :=
  head.andThen fun
  | .openArray => (Tail.delimited ']' itemOf (blank, fields)).andThen fun d => .answer (finish d.1)
  | .openObject =>
    (Tail.delimited '}' (fun d => member (fieldOf fields d)) blank).andThen fun d =>
      .answer (finish d)
  | _ => .fail .mismatch

/-- One of several shapes of record, told apart by the name in its field `tag`. The name is checked
as soon as it is met and the other fields are read whole, with at most `depth` brackets open. An
array has the name as its first item. -/
def tagged (tag : String) (kind : String → Option κ) (depth : Nat) : Reader (κ × Payload) :=
  head.andThen fun
  | .openArray =>
    (Tail.delimited ']' (fun (acc : Option κ × List Value) =>
      match acc with
      | (none, vs) => (string.check kind).map fun k => (some k, vs)
      | (some k, vs) => (value depth).map fun v => (some k, v :: vs)) (none, [])).andThen
      fun (k, vs) => .answer (k.map (·, .items vs.reverse))
  | .openObject =>
    (Tail.delimited '}' (fun (acc : Option κ × List (String × Value)) => member fun key =>
      if key = tag then
        if acc.1.isSome then .error .mismatch
        else .ok ((string.check kind).map fun k => (some k, acc.2))
      else .ok ((value depth).map fun v => (acc.1, (key, v) :: acc.2))) (none, [])).andThen
      fun (k, ms) => .answer (k.map (·, .members ms.reverse))
  | _ => .fail .mismatch

end Reader

end SlideGraph.Json
