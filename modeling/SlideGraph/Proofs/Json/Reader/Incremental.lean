import SlideGraph.Proofs.Json.Cut

/-!
# Readers of texts that are cut off

Where a text is cut off, a reader that has read its value already has read the same value of the
whole text, and one that has refused the text refuses the whole. Otherwise it waits for more, unless
the cut lies inside a number. A reader is *self-delimiting* if it reads no value before its end
even then, as that of a container is, which ends with its bracket.
-/

namespace SlideGraph.Json

variable {α β : Type} {Open : α → Step α → Prop} {Open' : β → Step β → Prop}

/-- What is read of a text that is cut off agrees with what is read of the whole. Inside a number
`Open` says what may be read too soon. -/
structure IncrementalUpTo (Open : α → Step α → Prop) (read : List Char → Step α) : Prop where
  takes : ∀ {s t : List Char} {a : α}, read s = .ok (a, t) → ∃ w, s = w ++ t ∧ Balanced w
  cut : ∀ {q : List Char} (p u : List Char), Balanced q →
    Partway Open (q ++ p) u (read p) (read (p ++ u))

/-- Anything may be read too soon inside a number. -/
abbrev Incremental (read : List Char → Step α) : Prop := IncrementalUpTo (fun _ _ => True) read

/-- Nothing is read before its end. -/
abbrev SelfDelimiting (read : List Char → Step α) : Prop := IncrementalUpTo (fun _ _ => False) read

theorem IncrementalUpTo.mono {Open' : α → Step α → Prop} {read : List Char → Step α}
    (h : IncrementalUpTo Open read) (hopen : ∀ a y, Open a y → Open' a y) :
    IncrementalUpTo Open' read where
  takes := h.takes
  cut p u hq := (h.cut p u hq).mono hopen

theorem IncrementalUpTo.incremental {read : List Char → Step α} (h : IncrementalUpTo Open read) :
    Incremental read :=
  h.mono fun _ _ _ => trivial

/-! ### One reader after another -/

theorem Tail.andThen_read (r : Tail α) (k : α → Tail β) (s : List Char) :
    (r.andThen k).read s = after (fun a => (k a).read) (r.read s) := by
  rw [Tail.andThen]
  cases h : r.read s <;> simp [h, after]

theorem IncrementalUpTo.andThen {r : Tail α} {k : α → Tail β} (h : IncrementalUpTo Open r.read)
    (hk : ∀ a, IncrementalUpTo Open' (k a).read)
    (hopen : ∀ {p u a y}, InNumber p u → Open a y →
      Partway Open' p u ((k a).read []) (after (fun a => (k a).read) y)) :
    IncrementalUpTo Open' (r.andThen k).read where
  takes hread := by
    obtain ⟨a, t, hr, hrest⟩ := Tail.andThen_eq_ok_iff.1 hread
    obtain ⟨w, rfl, hw⟩ := h.takes hr
    obtain ⟨v, rfl, hv⟩ := (hk a).takes hrest
    exact ⟨w ++ v, (List.append_assoc w v _).symm, hw.append hv⟩
  cut {q} p u hq := by
    have hcut := h.cut p u hq
    rw [Tail.andThen_read, Tail.andThen_read]
    generalize hx : r.read p = x at hcut
    generalize r.read (p ++ u) = y at hcut
    cases hcut with
    | follows hfollows =>
      cases hfollows with
      | waiting y => exact .follows (.waiting _)
      | refused e e' => exact .follows (.refused e e')
      | done a t =>
        obtain ⟨w, rfl, hw⟩ := h.takes hx
        rw [← List.append_assoc]
        exact (hk a).cut t u (hq.append hw)
    | malformed hin => exact .malformed hin
    | within hin ha => exact hopen hin ha

theorem SelfDelimiting.andThen {r : Tail α} {k : α → Tail β} (h : SelfDelimiting r.read)
    (hk : ∀ a, IncrementalUpTo Open' (k a).read) : IncrementalUpTo Open' (r.andThen k).read :=
  IncrementalUpTo.andThen h hk fun _ ha => ha.elim

theorem selfDelimiting_done (a : α) : SelfDelimiting (Tail.done a).read where
  takes h := by
    cases h
    exact ⟨[], rfl, balanced_nil⟩
  cut p u _ := .follows (.done a p)

theorem selfDelimiting_fail (e : Fault) : SelfDelimiting (Tail.fail e : Tail α).read where
  takes h := by cases h
  cut p u _ := .follows (.refused e e)

theorem selfDelimiting_answer (o : Option α) : SelfDelimiting (Tail.answer o).read := by
  cases o with
  | none => exact selfDelimiting_fail .mismatch
  | some a => exact selfDelimiting_done a

theorem SelfDelimiting.check {r : Reader α} (h : SelfDelimiting r.read) (f : α → Option β) :
    SelfDelimiting (r.check f).read :=
  SelfDelimiting.andThen (r := r.tail) h fun a => selfDelimiting_answer (f a)

theorem SelfDelimiting.map {r : Reader α} (h : SelfDelimiting r.read) (f : α → β) :
    SelfDelimiting (r.map f).read :=
  SelfDelimiting.andThen (r := r.tail) h fun a => selfDelimiting_done (f a)

/-- A check that refuses what is read too soon only together with what is read of the whole. -/
theorem IncrementalUpTo.check {r : Reader α} (h : IncrementalUpTo Open r.read) {f : α → Option β}
    (hf : ∀ a b t, Open a (.ok (b, t)) → f a = none → f b = none) :
    Incremental (r.check f).read := by
  refine IncrementalUpTo.andThen (r := r.tail) h
    (fun a => (selfDelimiting_answer (f a)).incremental) ?_
  intro p u a y hin ha
  cases hfa : f a with
  | some c => exact .within hin trivial
  | none =>
    cases y with
    | error e => exact .follows (.refused _ _)
    | ok r =>
      obtain ⟨b, t⟩ := r
      simp only [after, hf a b t ha hfa]
      exact .follows (.refused _ _)

/-- A check that refuses whatever is read too soon. -/
theorem IncrementalUpTo.check_none {r : Reader α} (h : IncrementalUpTo Open r.read)
    {f : α → Option β} (hf : ∀ a b t, Open a (.ok (b, t)) → f b = none)
    (hnone : ∀ a y, Open a y → f a = none) : SelfDelimiting (r.check f).read := by
  refine IncrementalUpTo.andThen (r := r.tail) h (fun a => selfDelimiting_answer (f a)) ?_
  intro p u a y hin ha
  rw [hnone a y ha]
  cases y with
  | error e => exact .follows (.refused _ _)
  | ok r =>
    obtain ⟨b, t⟩ := r
    simp only [after, hf a b t ha]
    exact .follows (.refused _ _)

theorem Incremental.map {r : Reader α} (h : Incremental r.read) (f : α → β) :
    Incremental (r.map f).read :=
  IncrementalUpTo.andThen (r := r.tail) h (fun a => (selfDelimiting_done (f a)).incremental)
    fun hin _ => .within hin trivial

/-! ### Single tokens -/

theorem dropBlanks_append_of_cons {p t : List Char} {c : Char} (h : dropBlanks p = c :: t)
    (u : List Char) : dropBlanks (p ++ u) = c :: (t ++ u) := by
  have hc := List.head?_dropWhile_not isBlank p
  rw [show p.dropWhile isBlank = c :: t from h] at hc
  obtain ⟨bs, hbs, rfl⟩ := exists_blanks_cons h
  rw [List.append_assoc, dropBlanks_append hbs]
  exact dropBlanks_cons hc (t ++ u)

theorem selfDelimiting_symbol {c : Char} (hc : isBlank c = false) (hquote : c ≠ '"') :
    SelfDelimiting (Reader.symbol c).read where
  takes {s t a} h := by
    obtain ⟨bs, hbs, rfl⟩ := (Reader.symbol_eq_ok_iff hc).1 h
    have hsymbol : Balanced [c] := balanced_of_forall_ne (by simpa using hquote)
    exact ⟨bs ++ [c], by simp, hbs.balanced.append hsymbol⟩
  cut {q} p u _ := by
    cases hp : dropBlanks p with
    | nil =>
      simp only [Reader.symbol, hp]
      exact .follows (.waiting _)
    | cons d t =>
      simp only [Reader.symbol, hp, dropBlanks_append_of_cons hp]
      split_ifs
      · exact .follows (.done () t)
      · exact .follows (.refused _ _)

/-! ### Strings -/

theorem follows_unquoted (p u : List Char) :
    Follows u (Reader.unquoted.read p) (Reader.unquoted.read (p ++ u)) := by
  have hread (s : List Char) : Reader.unquoted.read s =
      after (fun cs t => .ok (String.ofList cs, t)) (Quoted.scan s) := by
    simp only [Reader.unquoted]
    cases Quoted.scan s <;> rfl
  rw [hread, hread]
  exact (Quoted.follows_scan p u).after fun cs t _ => .done _ t

theorem follows_unquotedAway (p u : List Char) :
    Follows u (Reader.unquotedAway.read p) (Reader.unquotedAway.read (p ++ u)) := by
  have hread (s : List Char) : Reader.unquotedAway.read s = (Quoted.pass s).map ((), ·) := by
    simp only [Reader.unquotedAway]
    cases Quoted.pass s <;> rfl
  rw [hread, hread]
  exact Quoted.follows_pass () p u

theorem Reader.andThen_read (r : Reader α) (k : α → Tail β) (s : List Char) :
    (r.andThen k).read s = after (fun a => (k a).read) (r.read s) :=
  Tail.andThen_read r.tail k s

/-- A string whose characters are read by `r`. -/
theorem selfDelimiting_quoted {r : Reader α}
    (htakes : ∀ {s t a}, r.read s = .ok (a, t) → ∃ l : Literal, s = l.inner ++ '"' :: t)
    (hfollows : ∀ p u, Follows u (r.read p) (r.read (p ++ u))) :
    SelfDelimiting ((Reader.symbol '"').andThen fun _ => r.tail).read where
  takes {s t a} h := by
    obtain ⟨_, u, hquote, hrest⟩ := Reader.andThen_eq_ok_iff.1 h
    obtain ⟨bs, hbs, rfl⟩ := (Reader.symbol_eq_ok_iff (by decide)).1 hquote
    obtain ⟨l, rfl⟩ := htakes hrest
    exact ⟨bs ++ l.token, by simp [Literal.token], hbs.balanced.append l.balanced_token⟩
  cut {q} p u _ := by
    rw [Reader.andThen_read, Reader.andThen_read]
    cases hp : dropBlanks p with
    | nil =>
      simp only [Reader.symbol, hp]
      exact .follows (.waiting _)
    | cons d t =>
      simp only [Reader.symbol, hp, dropBlanks_append_of_cons hp]
      split_ifs
      · exact .follows (hfollows t u)
      · exact .follows (.refused _ _)

theorem selfDelimiting_key : SelfDelimiting Reader.key.read := by
  refine selfDelimiting_quoted ?_ follows_unquoted
  intro s t a h
  obtain ⟨l, hs, -⟩ := Reader.unquoted_eq_ok_iff.1 h
  exact ⟨l, hs⟩

theorem selfDelimiting_keyAway : SelfDelimiting
    ((Reader.symbol '"').andThen fun _ => Reader.unquotedAway.tail).read :=
  selfDelimiting_quoted Reader.unquotedAway_eq_ok_iff.1 follows_unquotedAway

/-! ### The front of a value -/

theorem Front.balanced_token (f : Front) : Balanced f.token := by
  cases f with
  | openArray => rfl
  | openObject => rfl
  | scalar x => exact x.balanced_token

theorem ReadsFront.takes {γ : Type} {front : Reader γ} {denote : Front → Option γ}
    (h : ReadsFront front denote) {s t : List Char} {g : γ} (hread : front.read s = .ok (g, t)) :
    ∃ w, s = w ++ t ∧ Balanced w := by
  obtain ⟨f, bs, hbs, rfl, -⟩ := h.sound hread
  exact ⟨bs ++ f.token, (List.append_assoc _ _ _).symm, hbs.balanced.append f.balanced_token⟩

/-- Behind blanks the front of a value is told by its first character. -/
theorem ReadsFront.incrementalUpTo {γ : Type} {Open : γ → Step γ → Prop} {front : Reader γ}
    {denote : Front → Option γ} {scan : List Char → Step γ} (h : ReadsFront front denote)
    (hread : ∀ s, front.read s = scan (dropBlanks s)) (hnil : scan [] = .error .truncated)
    (hscan : ∀ {q} c p u, Balanced q →
      Partway Open (q ++ c :: p) u (scan (c :: p)) (scan (c :: (p ++ u)))) :
    IncrementalUpTo Open front.read where
  takes := h.takes
  cut {q} p u hq := by
    rw [hread, hread]
    cases hp : dropBlanks p with
    | nil =>
      rw [hnil]
      exact .follows (.waiting _)
    | cons c t =>
      rw [dropBlanks_append_of_cons hp]
      obtain ⟨bs, hbs, rfl⟩ := exists_blanks_cons hp
      rw [← List.append_assoc]
      exact hscan c t u (hq.append hbs.balanced)

namespace Head

/-- What may be read of a number that is cut off. -/
def Cut (h : Head) (y : Step Head) : Prop :=
  ∃ k, h = .number k ∧ ∀ h' t, y = .ok (h', t) → ∃ k', h' = .number k' ∧
    ∀ n, k' = .natural n → ∃ j ≤ n, k = .natural j

theorem word_eq (w : List Char) (h : Head) (s : List Char) :
    word w h s = (literal w s).map (h, ·) := by
  rw [word]
  cases literal w s <;> rfl

theorem scan_number_eq {c : Char} (hc : c = '-' ∨ c.isDigit = true) (s : List Char) :
    scan (c :: s) = after (fun k t => .ok (.number k, t)) (Number.scan (c :: s)) := by
  have hn : c ∉ ['n', 't', 'f', '"', '[', '{'] := by
    rintro hfront
    rcases hc with rfl | hc
    · simp at hfront
    · simp only [List.mem_cons, List.not_mem_nil, or_false] at hfront
      rcases hfront with rfl | rfl | rfl | rfl | rfl | rfl <;> revert hc <;> decide
  rw [scan, if_pos hc]
  · cases Number.scan (c :: s) <;> rfl
  all_goals simp_all

theorem scan_other {c : Char} (hc : ¬(c = '-' ∨ c.isDigit = true))
    (hfront : c ∉ ['n', 't', 'f', '"', '[', '{']) (s : List Char) :
    scan (c :: s) = .error .malformed := by
  rw [scan.eq_def]
  split <;> simp_all

theorem partway_scan {q : List Char} (c : Char) (p u : List Char) (hq : Balanced q) :
    Partway Cut (q ++ c :: p) u (scan (c :: p)) (scan (c :: (p ++ u))) := by
  have hword (w : List Char) (h : Head) :
      Partway Cut (q ++ c :: p) u (word w h p) (word w h (p ++ u)) := by
    rw [word_eq, word_eq]
    exact .follows (follows_literal h w p u)
  by_cases hc : c = '-' ∨ c.isDigit = true
  · rw [scan_number_eq hc, scan_number_eq hc]
    refine (Number.partway_scan hq (List.cons_ne_nil c p) u).map Head.number ?_
    intro k hk
    refine ⟨k, rfl, ?_⟩
    intro h' t hy
    generalize Number.scan (c :: p ++ u) = y at hk hy
    cases y with
    | error e => cases hy
    | ok r =>
      cases hy
      exact ⟨r.1, rfl, fun n hn => hk n r.2 (by rw [← hn])⟩
  by_cases hfront : c ∈ ['n', 't', 'f', '"', '[', '{']
  · simp only [List.mem_cons, List.not_mem_nil, or_false] at hfront
    rcases hfront with rfl | rfl | rfl | rfl | rfl | rfl
    · exact hword _ _
    · exact hword _ _
    · exact hword _ _
    · have hread (s : List Char) : scan ('"' :: s) =
          after (fun x t => .ok (Head.string x, t)) (Reader.unquoted.read s) := by
        rw [scan]
        cases Reader.unquoted.read s <;> rfl
      rw [hread, hread]
      exact .follows ((follows_unquoted p u).after fun x t _ => .done (Head.string x) t)
    · exact .follows (.done openArray p)
    · exact .follows (.done openObject p)
  · rw [scan_other hc hfront, scan_other hc hfront]
    exact .follows (.refused _ _)

end Head

namespace Opening

theorem scan_number_eq {c : Char} (hc : c = '-' ∨ c.isDigit = true) (s : List Char) :
    scan (c :: s) = (Number.pass (c :: s)).map (scalar, ·) := by
  rcases hc with rfl | hc
  · simp [scan]
  · rw [scan.eq_def]
    split <;> simp_all

theorem scan_other {c : Char} (hc : ¬(c = '-' ∨ c.isDigit = true))
    (hfront : c ∉ ['n', 't', 'f', '"', '[', '{']) (s : List Char) :
    scan (c :: s) = .error .malformed := by
  rw [scan.eq_def]
  split <;> simp_all

theorem partway_scan {q : List Char} (c : Char) (p u : List Char) (hq : Balanced q) :
    Partway (fun o _ => o = .scalar) (q ++ c :: p) u (scan (c :: p)) (scan (c :: (p ++ u))) := by
  by_cases hc : c = '-' ∨ c.isDigit = true
  · rw [scan_number_eq hc, scan_number_eq hc]
    exact Number.partway_pass scalar hq (List.cons_ne_nil c p) u
  by_cases hfront : c ∈ ['n', 't', 'f', '"', '[', '{']
  · simp only [List.mem_cons, List.not_mem_nil, or_false] at hfront
    rcases hfront with rfl | rfl | rfl | rfl | rfl | rfl
    · exact .follows (follows_literal scalar _ p u)
    · exact .follows (follows_literal scalar _ p u)
    · exact .follows (follows_literal scalar _ p u)
    · exact .follows (Quoted.follows_pass scalar p u)
    · exact .follows (.done array p)
    · exact .follows (.done object p)
  · rw [scan_other hc hfront, scan_other hc hfront]
    exact .follows (.refused _ _)

end Opening

theorem incrementalUpTo_head : IncrementalUpTo Head.Cut Reader.head.read :=
  readsFront_head.incrementalUpTo (fun _ => rfl) rfl Head.partway_scan

theorem incrementalUpTo_opening :
    IncrementalUpTo (fun o _ => o = .scalar) Reader.opening.read :=
  readsFront_opening.incrementalUpTo (fun _ => rfl) rfl Opening.partway_scan

/-! ### Scalars -/

theorem selfDelimiting_head_check {f : Head → Option α} (hf : ∀ k, f (.number k) = none) :
    SelfDelimiting (Reader.head.check f).read := by
  refine incrementalUpTo_head.check_none ?_ ?_
  · rintro h h' t ⟨k, rfl, hy⟩
    obtain ⟨k', rfl, -⟩ := hy h' t rfl
    exact hf k'
  · rintro h y ⟨k, rfl, -⟩
    exact hf k

theorem selfDelimiting_null : SelfDelimiting Reader.null.read :=
  selfDelimiting_head_check fun _ => rfl

theorem selfDelimiting_bool : SelfDelimiting Reader.bool.read :=
  selfDelimiting_head_check fun _ => rfl

theorem selfDelimiting_string : SelfDelimiting Reader.string.read :=
  selfDelimiting_head_check fun _ => rfl

/-- An integer that is cut off is one below the same bound. -/
theorem incremental_natural (bound : Nat) : Incremental (Reader.natural bound).read := by
  refine incrementalUpTo_head.check ?_
  rintro h h' t ⟨k, rfl, hy⟩ hk
  obtain ⟨k', rfl, hnatural⟩ := hy h' t rfl
  cases k' with
  | negative n => rfl
  | real => rfl
  | natural n =>
    obtain ⟨j, hj, rfl⟩ := hnatural n rfl
    have hbound : ¬j < bound := fun hlt => by simp [hlt] at hk
    exact if_neg fun hlt => hbound (Nat.lt_of_le_of_lt hj hlt)

/-! ### Choices by the first character -/

/-- Of blanks alone nothing is read yet. -/
def Waits (read : List Char → Step α) : Prop :=
  ∀ p, dropBlanks p = [] → read p = .error .truncated

theorem waits_head_andThen (k : Head → Tail α) : Waits (Reader.head.andThen k).read := by
  intro p hp
  rw [Reader.andThen_read]
  simp only [Reader.head, hp]
  rfl

theorem waits_name (f : String → Option α) : Waits (Reader.name f).read := by
  intro p hp
  simp only [Reader.name, hp]

theorem Incremental.optional {r : Reader α} (h : Incremental r.read) (hwaits : Waits r.read) :
    Incremental (Reader.optional r).read where
  takes {s t a} hread := by
    rw [Reader.optional_read] at hread
    split_ifs at hread
    · exact (selfDelimiting_null.map _).takes hread
    · exact (h.map some).takes hread
  cut {q} p u hq := by
    rw [Reader.optional_read, Reader.optional_read]
    cases hp : dropBlanks p with
    | nil =>
      have hread : (r.map some).read p = .error .truncated := by
        rw [Reader.map, Reader.andThen_read, hwaits p hp]
        rfl
      rw [List.head?_nil, if_neg (by simp), hread]
      exact .follows (.waiting _)
    | cons c t =>
      rw [dropBlanks_append_of_cons hp, List.head?_cons, List.head?_cons]
      split_ifs
      · exact (selfDelimiting_null.map _).incremental.cut p u hq
      · exact (h.map some).cut p u hq

/-- The rest of a name that is given as an object, behind the bracket that opens it. -/
theorem selfDelimiting_nameObject (f : String → Option α) :
    SelfDelimiting ((Reader.key.check f).andThen fun a =>
      ((Reader.symbol ':').tail.andThen fun _ => Reader.null.tail.andThen fun _ =>
        (Reader.symbol '}').tail).map fun _ => a).read := by
  have hclose : SelfDelimiting
      (Reader.null.tail.andThen fun _ => (Reader.symbol '}').tail).read :=
    SelfDelimiting.andThen (r := Reader.null.tail) selfDelimiting_null
      fun _ => selfDelimiting_symbol (by decide) (by decide)
  have hvalue : SelfDelimiting ((Reader.symbol ':').tail.andThen fun _ =>
      Reader.null.tail.andThen fun _ => (Reader.symbol '}').tail).read :=
    SelfDelimiting.andThen (r := (Reader.symbol ':').tail)
      (selfDelimiting_symbol (by decide) (by decide)) fun _ => hclose
  exact SelfDelimiting.andThen (r := (Reader.key.check f).tail) (selfDelimiting_key.check f)
    fun a => hvalue.andThen fun _ => selfDelimiting_done a

theorem selfDelimiting_name (f : String → Option α) : SelfDelimiting (Reader.name f).read where
  takes {s t a} hread := by
    simp only [Reader.name] at hread
    split at hread
    · cases hread
    · exact (selfDelimiting_string.check f).takes hread
    · rename_i v hdrop
      obtain ⟨bs, hbs, rfl⟩ := exists_blanks_cons hdrop
      obtain ⟨w, rfl, hw⟩ := (selfDelimiting_nameObject f).takes hread
      have hopen : Balanced ['{'] := rfl
      exact ⟨bs ++ (['{'] ++ w), by simp, hbs.balanced.append (hopen.append hw)⟩
    · cases hread
  cut {q} p u hq := by
    cases hp : dropBlanks p with
    | nil =>
      rw [waits_name f p hp]
      exact .follows (.waiting _)
    | cons c t =>
      by_cases hquote : c = '"'
      · subst hquote
        simp only [Reader.name, hp, dropBlanks_append_of_cons hp]
        exact (selfDelimiting_string.check f).cut p u hq
      by_cases hopen : c = '{'
      · subst hopen
        have hbracket : Balanced ['{'] := rfl
        simp only [Reader.name, hp, dropBlanks_append_of_cons hp]
        obtain ⟨bs, hbs, rfl⟩ := exists_blanks_cons hp
        have hqp : q ++ (bs ++ '{' :: t) = q ++ (bs ++ ['{']) ++ t := by simp
        rw [hqp]
        exact (selfDelimiting_nameObject f).cut t u (hq.append (hbs.balanced.append hbracket))
      · have hother {s v : List Char} (hs : dropBlanks s = c :: v) :
            (Reader.name f).read s = .error .malformed := by
          simp [Reader.name, hs, hquote, hopen]
        rw [hother hp, hother (dropBlanks_append_of_cons hp u)]
        exact .follows (.refused _ _)

end SlideGraph.Json
