import SlideGraph.Json.Quoted
import SlideGraph.Json.Number

/-!
# Readers

A `Reader` reads one value from the front of a text and takes at least one character for it, so a
loop over readers comes to an end. A `Tail` goes on where something has been read already and may
take nothing. Readers of shapes are built from `head`, which reads a scalar or the bracket that
opens a container, so that the fault of a value of the wrong kind is the same wherever it stands:
a scalar is read to its end before it is refused, a bracket is refused at once.
-/

namespace SlideGraph.Json

/-- Reads something from the front of a text and takes at least one character. -/
structure Reader (α : Type) where
  /-- Read the front of a text. -/
  read : List Char → Step α
  shrinks : ∀ {s t : List Char} {a : α}, read s = .ok (a, t) → t.length < s.length

/-- Goes on reading after something else and may take nothing. -/
structure Tail (α : Type) where
  /-- Go on at the front of a text. -/
  read : List Char → Step α
  shrinks : ∀ {s t : List Char} {a : α}, read s = .ok (a, t) → t.length ≤ s.length

variable {α β σ : Type}

/-! ### Tails -/

namespace Tail

/-- Take nothing and answer. -/
def done (a : α) : Tail α where
  read s := .ok (a, s)
  shrinks h := by cases h; exact Nat.le_refl _

/-- Refuse whatever follows. -/
def fail (e : Fault) : Tail α where
  read _ := .error e
  shrinks h := nomatch h

/-- Answer, or refuse the value that was read where there is no answer. -/
def answer : Option α → Tail α
  | some a => done a
  | none => fail .mismatch

/-- Go on with a second tail. -/
def andThen (r : Tail α) (k : α → Tail β) : Tail β where
  read s :=
    match r.read s with
    | .error e => .error e
    | .ok (a, t) => (k a).read t
  shrinks {s t b} h := by
    split at h
    · cases h
    · rename_i h'
      have := r.shrinks h'
      have := (k _).shrinks h
      omega

/-- Change the answer. -/
def map (f : α → β) (r : Tail α) : Tail β := r.andThen fun a => done (f a)

end Tail

/-! ### Readers -/

namespace Reader

/-- A reader where a tail is wanted. -/
def tail (r : Reader α) : Tail α where
  read := r.read
  shrinks h := Nat.le_of_lt (r.shrinks h)

/-- Refuse whatever is there. -/
def fail (e : Fault) : Reader α where
  read _ := .error e
  shrinks h := nomatch h

/-- Go on with a tail. -/
def andThen (r : Reader α) (k : α → Tail β) : Reader β where
  read s :=
    match r.read s with
    | .error e => .error e
    | .ok (a, t) => (k a).read t
  shrinks {s t b} h := by
    split at h
    · cases h
    · rename_i h'
      have := r.shrinks h'
      have := (k _).shrinks h
      omega

/-- Change the answer. -/
def map (f : α → β) (r : Reader α) : Reader β := r.andThen fun a => .done (f a)

/-- Change the answer, or refuse the value. -/
def check (f : α → Option β) (r : Reader α) : Reader β := r.andThen fun a => .answer (f a)

/-- The character `c`, after blanks. -/
def symbol (c : Char) : Reader Unit where
  read s :=
    match dropBlanks s with
    | [] => .error .truncated
    | d :: t => if d = c then .ok ((), t) else .error .malformed
  shrinks {s t _} h := by
    split at h
    · cases h
    · rename_i h'
      split at h
      · cases h; exact length_lt_of_dropBlanks_eq_cons h'
      · cases h

/-- The rest of a string after its opening quote. -/
def unquoted : Reader String where
  read s :=
    match Quoted.scan s with
    | .error e => .error e
    | .ok (cs, t) => .ok (String.ofList cs, t)
  shrinks {s t _} h := by
    split at h
    · cases h
    · rename_i h'
      cases h; exact Quoted.scan_length h'

/-- The rest of a string after its opening quote, when its characters are not kept. -/
def unquotedAway : Reader Unit where
  read s :=
    match Quoted.pass s with
    | .error e => .error e
    | .ok t => .ok ((), t)
  shrinks {s t _} h := by
    split at h
    · cases h
    · rename_i h'
      cases h; exact Quoted.pass_length h'

end Reader

/-! ### The front of a value -/

/-- The front of a value: all of a scalar, of a container the bracket that opens it. -/
inductive Head
  | null
  | bool (b : Bool)
  | number (n : Number)
  | string (s : String)
  | openArray
  | openObject
deriving DecidableEq, Repr

namespace Head

/-- The rest of a word of letters that has begun with its first one. -/
def word (w : List Char) (h : Head) (s : List Char) : Step Head :=
  match literal w s with
  | .error e => .error e
  | .ok t => .ok (h, t)

/-- Read the front of a value from a text that starts with no blank. -/
def scan : List Char → Step Head
  | [] => .error .truncated
  | 'n' :: s => word ['u', 'l', 'l'] .null s
  | 't' :: s => word ['r', 'u', 'e'] (.bool true) s
  | 'f' :: s => word ['a', 'l', 's', 'e'] (.bool false) s
  | '"' :: s =>
    match Reader.unquoted.read s with
    | .error e => .error e
    | .ok (x, t) => .ok (.string x, t)
  | '[' :: s => .ok (.openArray, s)
  | '{' :: s => .ok (.openObject, s)
  | c :: s =>
    if c = '-' ∨ c.isDigit then
      match Number.scan (c :: s) with
      | .error e => .error e
      | .ok (n, t) => .ok (.number n, t)
    else .error .malformed

theorem word_length {w s t : List Char} {h h' : Head} (e : word w h s = .ok (h', t)) :
    t.length ≤ s.length := by
  unfold word at e
  split at e
  · cases e
  · rename_i hl
    cases e
    simp [literal_eq_ok hl]

theorem scan_length {s t : List Char} {h : Head} (e : scan s = .ok (h, t)) :
    t.length < s.length := by
  unfold scan at e
  split at e
  · cases e
  · exact Nat.lt_succ_of_le (word_length e)
  · exact Nat.lt_succ_of_le (word_length e)
  · exact Nat.lt_succ_of_le (word_length e)
  · split at e
    · cases e
    · rename_i hr
      cases e
      exact Nat.lt_succ_of_lt (Reader.unquoted.shrinks hr)
  · cases e; simp
  · cases e; simp
  · split at e
    · split at e
      · cases e
      · rename_i hn
        cases e; exact Number.scan_length hn
    · cases e

end Head

/-- What a value that nobody asks for opens. -/
inductive Opening
  | scalar
  | array
  | object
deriving DecidableEq, Repr

namespace Opening

/-- Go over the front of a value, from a text that starts with no blank. -/
def scan : List Char → Step Opening
  | [] => .error .truncated
  | 'n' :: s => (literal ['u', 'l', 'l'] s).map (.scalar, ·)
  | 't' :: s => (literal ['r', 'u', 'e'] s).map (.scalar, ·)
  | 'f' :: s => (literal ['a', 'l', 's', 'e'] s).map (.scalar, ·)
  | '"' :: s => (Quoted.pass s).map (.scalar, ·)
  | '[' :: s => .ok (.array, s)
  | '{' :: s => .ok (.object, s)
  | c :: s =>
    if c = '-' ∨ c.isDigit then (Number.pass (c :: s)).map (.scalar, ·) else .error .malformed

theorem length_of_map {x : Except Fault (List Char)} {o o' : Opening} {t : List Char}
    (h : x.map (o, ·) = .ok (o', t)) : x = .ok t := by
  cases x with
  | error e => cases h
  | ok u => cases h; rfl

theorem scan_length {s t : List Char} {o : Opening} (e : scan s = .ok (o, t)) :
    t.length < s.length := by
  have word {w s : List Char} (h : (literal w s).map (Opening.scalar, ·) = .ok (o, t)) :
      t.length ≤ s.length := by simp [literal_eq_ok (length_of_map h)]
  unfold scan at e
  split at e
  · cases e
  · exact Nat.lt_succ_of_le (word e)
  · exact Nat.lt_succ_of_le (word e)
  · exact Nat.lt_succ_of_le (word e)
  · exact Nat.lt_succ_of_lt (Quoted.pass_length (length_of_map e))
  · cases e; simp
  · cases e; simp
  · split at e
    · exact Number.pass_length (length_of_map e)
    · cases e

end Opening

namespace Reader

/-- Blanks and then the front of a value. -/
def head : Reader Head where
  read s := Head.scan (dropBlanks s)
  shrinks {s _ _} h := Nat.lt_of_lt_of_le (Head.scan_length h) (length_dropBlanks_le s)

/-- Blanks and then the front of a value that is not kept. -/
def opening : Reader Opening where
  read s := Opening.scan (dropBlanks s)
  shrinks {s _ _} h := Nat.lt_of_lt_of_le (Opening.scan_length h) (length_dropBlanks_le s)

/-! ### Scalars -/

/-- The word `null`. -/
def null : Reader Unit := head.check fun
  | .null => some ()
  | _ => none

/-- A truth value. -/
def bool : Reader Bool := head.check fun
  | .bool b => some b
  | _ => none

/-- A string. -/
def string : Reader String := head.check fun
  | .string s => some s
  | _ => none

/-- An integer without a sign, below `bound`. -/
def natural (bound : Nat) : Reader Nat := head.check fun
  | .number (.natural n) => if n < bound then some n else none
  | _ => none

/-- An integer without a sign, of at most 64 bits. -/
def count : Reader Nat := natural UInt64.size

/-- The word `null`, or a value. -/
def optional (r : Reader α) : Reader (Option α) where
  read s :=
    match dropBlanks s with
    | 'n' :: _ => (null.map fun _ => none).read s
    | _ => (r.map some).read s
  shrinks {s t _} h := by
    split at h
    · exact (null.map _).shrinks h
    · exact (r.map some).shrinks h

/-- The key of a member of an object. Nothing but a string can stand there: a number or a word in its
place is no value of another kind, but makes the text malformed. -/
def key : Reader String := (symbol '"').andThen fun _ => unquoted.tail

/-- One of several names, given as a string or as the only key of an object that gives it null. -/
def name (f : String → Option α) : Reader α where
  read s :=
    match dropBlanks s with
    | [] => .error .truncated
    | '"' :: _ => (string.check f).read s
    | '{' :: t => ((key.check f).andThen fun a =>
        ((symbol ':').tail.andThen fun _ => null.tail.andThen fun _ => (symbol '}').tail).map
          fun _ => a).read t
    | _ => .error .malformed
  shrinks {s t _} h := by
    split at h
    · cases h
    · exact (string.check f).shrinks h
    · rename_i h'
      exact Nat.lt_trans (Reader.shrinks _ h) (length_lt_of_dropBlanks_eq_cons h')
    · cases h

end Reader

/-! ### Documents -/

/-- Read a whole document: nothing but blanks may follow the value. -/
def Reader.document (r : Reader α) (s : List Char) : Except Fault α :=
  match r.read s with
  | .error e => .error e
  | .ok (a, t) => if (dropBlanks t).isEmpty then .ok a else .error .malformed

end SlideGraph.Json
