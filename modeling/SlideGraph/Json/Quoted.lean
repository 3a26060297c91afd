import SlideGraph.Json.Fault

/-!
# Quoted strings

How a string stands in a JSON text. `scan` reads the characters after the opening quote up to the
closing one, `pass` goes over a string whose characters nobody asks for, and `quote` writes one.
-/

namespace SlideGraph.Json.Quoted

/-! ### Escapes -/

/-- The value of a hexadecimal digit, in either case. -/
def hexDigit? (c : Char) : Option Nat :=
  if '0' ≤ c ∧ c ≤ '9' then some (c.toNat - 48)
  else if 'a' ≤ c ∧ c ≤ 'f' then some (c.toNat - 87)
  else if 'A' ≤ c ∧ c ≤ 'F' then some (c.toNat - 55)
  else none

/-- The four hexadecimal digits of a `\u` escape. Four bytes have to be left for them before they
are looked at. -/
def hexQuad : List Char → Step Nat
  | a :: b :: c :: d :: rest =>
    match hexDigit? a, hexDigit? b, hexDigit? c, hexDigit? d with
    | some a, some b, some c, some d => .ok (((a * 16 + b) * 16 + c) * 16 + d, rest)
    | _, _, _, _ => .error .malformed
  | short => if (String.ofList short).utf8ByteSize < 4 then .error .truncated else .error .malformed

/-- The first half of a surrogate pair. -/
def isLeading (n : Nat) : Bool := 0xD800 ≤ n && n ≤ 0xDBFF

/-- The second half of a surrogate pair. -/
def isTrailing (n : Nat) : Bool := 0xDC00 ≤ n && n ≤ 0xDFFF

/-- The code point of a surrogate pair. -/
def joinSurrogates (lead trail : Nat) : Nat :=
  0x10000 + (lead - 0xD800) * 0x400 + (trail - 0xDC00)

/-- The character of a `\u` escape, read after the `u`. A surrogate is taken only as the first of
a pair, and the second has to follow at once. -/
def codePoint (s : List Char) : Step Char :=
  match hexQuad s with
  | .error e => .error e
  | .ok (n, rest) =>
    if isTrailing n then .error .malformed
    else if isLeading n then
      match rest with
      | [] | ['\\'] => .error .truncated
      | '\\' :: 'u' :: rest =>
        match hexQuad rest with
        | .error e => .error e
        | .ok (m, rest) =>
          if isTrailing m then .ok (Char.ofNat (joinSurrogates n m), rest) else .error .malformed
      | _ => .error .malformed
    else .ok (Char.ofNat n, rest)

/-- The character that a one-letter escape stands for. -/
def shortEscape? : Char → Option Char
  | '"' => some '"'
  | '\\' => some '\\'
  | '/' => some '/'
  | 'b' => some '\x08'
  | 'f' => some '\x0c'
  | 'n' => some '\n'
  | 'r' => some '\r'
  | 't' => some '\t'
  | _ => none

/-- Read one character inside a string, plain or escaped. -/
def character : List Char → Step Char
  | [] | ['\\'] => .error .truncated
  | '\\' :: 'u' :: s => codePoint s
  | '\\' :: e :: s =>
    match shortEscape? e with
    | some c => .ok (c, s)
    | none => .error .malformed
  | c :: s => if c < ' ' then .error .malformed else .ok (c, s)

/-- Go over one character inside a string that is not kept. Any `\u` escape will do, since no
character has to come out of it. -/
def passCharacter : List Char → Except Fault (List Char)
  | [] | ['\\'] => .error .truncated
  | '\\' :: 'u' :: s => (hexQuad s).map Prod.snd
  | '\\' :: e :: s => if (shortEscape? e).isSome then .ok s else .error .malformed
  | c :: s => if c < ' ' then .error .malformed else .ok s

theorem hexQuad_length {s t : List Char} {n : Nat} (h : hexQuad s = .ok (n, t)) :
    t.length < s.length := by
  unfold hexQuad at h
  split at h
  · split at h
    · cases h; simp only [List.length_cons]; omega
    · cases h
  · split at h <;> cases h

theorem codePoint_length {s t : List Char} {c : Char} (h : codePoint s = .ok (c, t)) :
    t.length < s.length := by
  unfold codePoint at h
  split at h
  · cases h
  · rename_i n rest hq
    have := hexQuad_length hq
    split at h
    · cases h
    · split at h
      · split at h
        · cases h
        · cases h
        · rename_i rest'
          split at h
          · cases h
          · rename_i m rest'' hm
            have := hexQuad_length hm
            split at h
            · simp only [Except.ok.injEq, Prod.mk.injEq] at h
              simp only [List.length_cons, ← h.2] at *
              omega
            · cases h
        · cases h
      · simp only [Except.ok.injEq, Prod.mk.injEq] at h
        rw [← h.2]
        assumption

theorem character_length {s t : List Char} {c : Char} (h : character s = .ok (c, t)) :
    t.length < s.length := by
  unfold character at h
  split at h
  · cases h
  · cases h
  · have := codePoint_length h; simp only [List.length_cons]; omega
  · split at h
    · cases h; simp only [List.length_cons]; omega
    · cases h
  · split at h
    · cases h
    · cases h; simp

theorem passCharacter_length {s t : List Char} (h : passCharacter s = .ok t) :
    t.length < s.length := by
  unfold passCharacter at h
  split at h
  · cases h
  · cases h
  · rename_i s
    cases hq : hexQuad s with
    | error e => simp [hq, Except.map] at h
    | ok p =>
      obtain ⟨n, u⟩ := p
      simp only [hq, Except.map, Except.ok.injEq] at h
      have := hexQuad_length hq
      subst h; simp only [List.length_cons]; omega
  · split at h
    · cases h; simp only [List.length_cons]; omega
    · cases h
  · split at h
    · cases h
    · cases h; simp

/-! ### Whole strings -/

/-- Read the rest of a string after its opening quote: its characters and the text after the
closing quote. -/
def scan (s : List Char) : Step (List Char) :=
  match s with
  | [] => .error .truncated
  | '"' :: t => .ok ([], t)
  | c :: t =>
    match _h : character (c :: t) with
    | .error e => .error e
    | .ok (d, u) =>
      match scan u with
      | .error e => .error e
      | .ok (ds, v) => .ok (d :: ds, v)
termination_by s.length
decreasing_by exact character_length ‹_›

/-- Go over the rest of a string that is not kept. -/
def pass (s : List Char) : Except Fault (List Char) :=
  match s with
  | [] => .error .truncated
  | '"' :: t => .ok t
  | c :: t =>
    match _h : passCharacter (c :: t) with
    | .error e => .error e
    | .ok u => pass u
termination_by s.length
decreasing_by exact passCharacter_length ‹_›

theorem scan_length {s t : List Char} {ds : List Char} (h : scan s = .ok (ds, t)) :
    t.length < s.length := by
  fun_induction scan s generalizing ds t with
  | case1 => cases h
  | case2 t' => cases h; simp
  | case3 => cases h
  | case4 => cases h
  | case5 c u _ d v hc ds' w hs ih =>
    cases h
    have := character_length hc
    have := ih hs
    omega

theorem pass_length {s t : List Char} (h : pass s = .ok t) : t.length < s.length := by
  fun_induction pass s with
  | case1 => cases h
  | case2 t' => cases h; simp
  | case3 => cases h
  | case4 c u _ v hc ih =>
    have := passCharacter_length hc
    have := ih h
    omega

/-! ### Writing -/

/-- The lower-case hexadecimal digit of a number below sixteen. -/
def hexChar (n : Nat) : Char :=
  if n < 10 then Char.ofNat (48 + n) else Char.ofNat (87 + n)

/-- How one character is written inside a string. Only the quote, the backslash and the control
characters below the space are escaped. -/
def escape (c : Char) : List Char :=
  if c = '"' then ['\\', '"']
  else if c = '\\' then ['\\', '\\']
  else if c = '\x08' then ['\\', 'b']
  else if c = '\x0c' then ['\\', 'f']
  else if c = '\n' then ['\\', 'n']
  else if c = '\r' then ['\\', 'r']
  else if c = '\t' then ['\\', 't']
  else if c < ' ' then ['\\', 'u', '0', '0', hexChar (c.toNat / 16), hexChar (c.toNat % 16)]
  else [c]

/-- The characters of a string between quotes. -/
def quote (s : String) : List Char :=
  '"' :: (s.toList.flatMap escape ++ ['"'])

end SlideGraph.Json.Quoted
