import SlideGraph.Json.Reader.Basic
import SlideGraph.Proofs.Json.Number
import SlideGraph.Proofs.Json.Quoted

/-!
# What readers read

A reader is described by what it takes, in tokens of the grammar, and by what these stand for.
`Reads` says that it takes exactly that: everything that it takes has the tokens of something that
stands for the answer, and everything that stands for something is taken. Each reader has one such
lemma, put together from those of its parts.
-/

namespace SlideGraph.Json

variable {ι κ α β γ : Type}

/-- `read` takes the tokens of an `i` and answers what `i` stands for, and takes nothing else. -/
structure Reads (read : List Char → Step α) (tokens : ι → List Token) (denote : ι → Option α) :
    Prop where
  sound : ∀ {s t : List Char} {a : α}, read s = .ok (a, t) →
    ∃ i w, s = w ++ t ∧ Spaced (tokens i) w ∧ denote i = some a
  complete : ∀ {i : ι} {w t : List Char} {a : α}, Spaced (tokens i) w → denote i = some a →
    Ends t → read (w ++ t) = .ok (a, t)

theorem Reads.congr {read : List Char → Step α} {tokens : ι → List Token}
    {denote denote' : ι → Option α} (h : Reads read tokens denote)
    (heq : ∀ i, denote i = denote' i) : Reads read tokens denote' := by
  rw [← funext heq]
  exact h

/-- What is refused stands for nothing. -/
theorem reads_error {tokens : ι → List Token} (e : Fault) :
    Reads (fun _ => .error e) tokens fun _ => (none : Option α) where
  sound h := by cases h
  complete _ h := by cases h

/-- A document of what a reader reads. -/
theorem Reads.document_eq_ok_iff {r : Reader α} {denote : Tree → Option α}
    (h : Reads r.read Tree.tokens denote) {s : List Char} {a : α} :
    r.document s = .ok a ↔ ∃ v : Tree, v.IsDocument s ∧ denote v = some a := by
  rw [Reader.document]
  constructor
  · intro hread
    split at hread
    · cases hread
    · rename_i b t hb
      split_ifs at hread with hblank
      cases hread
      obtain ⟨v, w, rfl, hw, hv⟩ := h.sound hb
      exact ⟨v, ⟨w, t, rfl, hw, isEmpty_dropBlanks_iff.1 hblank⟩, hv⟩
  · rintro ⟨v, ⟨w, bs, rfl, hw, hbs⟩, hv⟩
    rw [h.complete hw hv (ends_of_blanks hbs)]
    simp [isEmpty_dropBlanks_iff.2 hbs]

/-! ### One reader after another -/

theorem Tail.andThen_eq_ok_iff {r : Tail α} {k : α → Tail β} {s u : List Char} {b : β} :
    (r.andThen k).read s = .ok (b, u) ↔
      ∃ a t, r.read s = .ok (a, t) ∧ (k a).read t = .ok (b, u) := by
  rw [Tail.andThen]
  cases h : r.read s with
  | error e => simp [h]
  | ok p =>
    obtain ⟨a, t⟩ := p
    simp [h]

theorem Reader.andThen_eq_ok_iff {r : Reader α} {k : α → Tail β} {s u : List Char} {b : β} :
    (r.andThen k).read s = .ok (b, u) ↔
      ∃ a t, r.read s = .ok (a, t) ∧ (k a).read t = .ok (b, u) := by
  rw [Reader.andThen]
  cases h : r.read s with
  | error e => simp [h]
  | ok p =>
    obtain ⟨a, t⟩ := p
    simp [h]

theorem Tail.answer_eq_ok_iff {o : Option α} {s t : List Char} {a : α} :
    (Tail.answer o).read s = .ok (a, t) ↔ o = some a ∧ s = t := by
  cases o with
  | none => simp [Tail.answer, Tail.fail]
  | some b => simp [Tail.answer, Tail.done]

/-- Changing the answer of a tail, or refusing it. -/
theorem Reads.andThen_answer {r : Tail α} {tokens : ι → List Token} {denote : ι → Option α}
    (h : Reads r.read tokens denote) (f : α → Option β) :
    Reads (r.andThen fun a => .answer (f a)).read tokens fun i => (denote i).bind f where
  sound hread := by
    obtain ⟨a, t, hr, hanswer⟩ := Tail.andThen_eq_ok_iff.1 hread
    obtain ⟨hf, rfl⟩ := Tail.answer_eq_ok_iff.1 hanswer
    obtain ⟨i, w, rfl, hw, ha⟩ := h.sound hr
    exact ⟨i, w, rfl, hw, by simp [ha, hf]⟩
  complete hw hdenote ht := by
    obtain ⟨a, ha, hf⟩ := Option.bind_eq_some_iff.1 hdenote
    have hr := h.complete hw ha ht
    exact Tail.andThen_eq_ok_iff.2 ⟨a, _, hr, Tail.answer_eq_ok_iff.2 ⟨hf, rfl⟩⟩

theorem Reads.check {r : Reader α} {tokens : ι → List Token} {denote : ι → Option α}
    (h : Reads r.read tokens denote) (f : α → Option β) :
    Reads (r.check f).read tokens fun i => (denote i).bind f :=
  andThen_answer (r := r.tail) h f

theorem Reads.map {r : Reader α} {tokens : ι → List Token} {denote : ι → Option α}
    (h : Reads r.read tokens denote) (f : α → β) :
    Reads (r.map f).read tokens fun i => (denote i).map f :=
  (h.check fun a => some (f a)).congr fun i => by cases denote i <;> rfl

/-! ### Single tokens -/

/-- A reader of single tokens, each of them behind any blanks. -/
theorem reads_token {read : List Char → Step α} {token : ι → Token} {denote : ι → Option α}
    (hsound : ∀ {s t a}, read s = .ok (a, t) →
      ∃ i bs, Blanks bs ∧ s = bs ++ (token i ++ t) ∧ denote i = some a)
    (hcomplete : ∀ {i bs t a}, Blanks bs → denote i = some a → Ends t →
      read (bs ++ (token i ++ t)) = .ok (a, t)) :
    Reads read (fun i => [token i]) denote where
  sound h := by
    obtain ⟨i, bs, hbs, rfl, ha⟩ := hsound h
    exact ⟨i, bs ++ (token i ++ []), by simp, .cons hbs .nil, ha⟩
  complete hw ha ht := by
    obtain ⟨bs, s, rfl, hbs, hs⟩ := spaced_cons_iff.1 hw
    rw [spaced_nil_iff.1 hs, List.append_nil, List.append_assoc]
    exact hcomplete hbs ha ht

namespace Reader

theorem symbol_eq_ok_iff {c : Char} (hc : isBlank c = false) {s t : List Char} {a : Unit} :
    (symbol c).read s = .ok (a, t) ↔ ∃ bs, Blanks bs ∧ s = bs ++ c :: t := by
  simp only [symbol]
  constructor
  · intro h
    obtain ⟨bs, hbs, hs⟩ := exists_blanks s
    split at h
    · cases h
    · rename_i d u hd
      split_ifs at h with hdc
      cases h
      exact ⟨bs, hbs, by rw [hs, hd, hdc]⟩
  · rintro ⟨bs, hbs, rfl⟩
    simp [dropBlanks_append hbs, dropBlanks_cons hc]

theorem unquoted_eq_ok_iff {s t : List Char} {x : String} :
    unquoted.read s = .ok (x, t) ↔ ∃ l : Literal, s = l.inner ++ '"' :: t ∧ l.string? = some x := by
  simp only [unquoted]
  constructor
  · intro h
    split at h
    · cases h
    · rename_i cs u hscan
      cases h
      obtain ⟨l, rfl, hl⟩ := Quoted.scan_eq_ok_iff.1 hscan
      exact ⟨l, rfl, by simp [Literal.string?, hl]⟩
  · rintro ⟨l, rfl, hl⟩
    obtain ⟨cs, hcs, rfl⟩ := Option.map_eq_some_iff.1 hl
    simp [Quoted.scan_complete hcs]

theorem unquotedAway_eq_ok_iff {s t : List Char} {a : Unit} :
    unquotedAway.read s = .ok (a, t) ↔ ∃ l : Literal, s = l.inner ++ '"' :: t := by
  rw [← Quoted.pass_eq_ok_iff]
  simp only [unquotedAway]
  cases h : Quoted.pass s with
  | error e => simp
  | ok u => simp

end Reader

theorem reads_symbol {c : Char} (hc : isBlank c = false) :
    Reads (Reader.symbol c).read (fun _ : Unit => [[c]]) fun _ => some () := by
  refine reads_token ?_ ?_
  · intro s t a h
    obtain ⟨bs, hbs, rfl⟩ := (Reader.symbol_eq_ok_iff hc).1 h
    exact ⟨(), bs, hbs, rfl, rfl⟩
  · intro _ bs t a hbs _ _
    exact (Reader.symbol_eq_ok_iff hc).2 ⟨_, hbs, rfl⟩

theorem reads_key : Reads Reader.key.read (fun l : Literal => [l.token]) Literal.string? := by
  refine reads_token ?_ ?_
  · intro s t a h
    obtain ⟨_, u, hquote, hrest⟩ := Reader.andThen_eq_ok_iff.1 h
    obtain ⟨bs, hbs, rfl⟩ := (Reader.symbol_eq_ok_iff (by decide)).1 hquote
    obtain ⟨l, rfl, hl⟩ := Reader.unquoted_eq_ok_iff.1 hrest
    exact ⟨l, bs, hbs, by simp [Literal.token], hl⟩
  · intro l bs t a hbs hl _
    refine Reader.andThen_eq_ok_iff.2 ⟨(), l.inner ++ '"' :: t, ?_, ?_⟩
    · refine (Reader.symbol_eq_ok_iff (by decide)).2 ⟨bs, hbs, ?_⟩
      simp [Literal.token]
    · exact Reader.unquoted_eq_ok_iff.2 ⟨l, rfl, hl⟩

/-! ### Several tokens -/

/-- One reader after another. A number that the first one ends with does not go on in the second. -/
theorem Reads.andThen {r : Tail α} {k : α → Tail β} {xs : ι → List Token} {ys : κ → List Token}
    {denote : ι → Option α} {denote' : α → κ → Option β} (h : Reads r.read xs denote)
    (hk : ∀ a, Reads (k a).read ys (denote' a)) (hstops : ∀ j, Begins Stops (ys j)) :
    Reads (r.andThen k).read (fun p : ι × κ => xs p.1 ++ ys p.2)
      fun p => (denote p.1).bind fun a => denote' a p.2 where
  sound hread := by
    obtain ⟨a, t, hr, hrest⟩ := Tail.andThen_eq_ok_iff.1 hread
    obtain ⟨i, w, rfl, hw, ha⟩ := h.sound hr
    obtain ⟨j, u, rfl, hu, hb⟩ := (hk a).sound hrest
    exact ⟨(i, j), w ++ u, by simp, spaced_append_iff.2 ⟨w, u, rfl, hw, hu⟩, by simp [ha, hb]⟩
  complete {p w t b} hw hb ht := by
    obtain ⟨w, u, rfl, hw, hu⟩ := spaced_append_iff.1 hw
    obtain ⟨a, ha, hb⟩ := Option.bind_eq_some_iff.1 hb
    have hr := h.complete hw ha ((hstops p.2).ends hu t)
    rw [List.append_assoc]
    exact Tail.andThen_eq_ok_iff.2 ⟨a, u ++ t, hr, (hk a).complete hu hb ht⟩

/-- A reader behind a symbol. -/
theorem Reads.behind {r : Tail α} {tokens : ι → List Token} {denote : ι → Option α} {c : Char}
    (hc : isBlank c = false) (h : Reads r.read tokens denote) :
    Reads ((Reader.symbol c).tail.andThen fun _ => r).read (fun i => [c] :: tokens i) denote where
  sound hread := by
    obtain ⟨_, t, hsymbol, hrest⟩ := Tail.andThen_eq_ok_iff.1 hread
    obtain ⟨bs, hbs, rfl⟩ := (Reader.symbol_eq_ok_iff hc).1 hsymbol
    obtain ⟨i, w, rfl, hw, ha⟩ := h.sound hrest
    exact ⟨i, bs ++ ([c] ++ w), by simp, .cons hbs hw, ha⟩
  complete {i w t a} hw ha ht := by
    obtain ⟨bs, w, rfl, hbs, hw⟩ := spaced_cons_iff.1 hw
    refine Tail.andThen_eq_ok_iff.2 ⟨(), w ++ t, ?_, h.complete hw ha ht⟩
    exact (Reader.symbol_eq_ok_iff hc).2 ⟨bs, hbs, by simp⟩

/-- What is read can be given as something else with the same tokens. -/
theorem Reads.reindex {read : List Char → Step α} {tokens : ι → List Token}
    {denote : ι → Option α} {tokens' : κ → List Token} {denote' : κ → Option α} (f : ι → κ)
    (hf : Function.Surjective f) (h : Reads read tokens denote)
    (htokens : ∀ i, tokens' (f i) = tokens i) (hdenote : ∀ i, denote' (f i) = denote i) :
    Reads read tokens' denote' where
  sound hread := by
    obtain ⟨i, w, rfl, hw, ha⟩ := h.sound hread
    exact ⟨f i, w, rfl, by rwa [htokens], by rwa [hdenote]⟩
  complete {j w t a} hw ha ht := by
    obtain ⟨i, rfl⟩ := hf j
    rw [htokens] at hw
    rw [hdenote] at ha
    exact h.complete hw ha ht

/-! ### The front of a value -/

/-- What a value begins with. -/
inductive Front
  | scalar (x : Scalar)
  | openArray
  | openObject

/-- What a scalar is taken for, nothing if there is no such value. -/
def Scalar.head? : Scalar → Option Head
  | null => some .null
  | bool b => some (.bool b)
  | number n _ _ => n.number?.map .number
  | string l => l.string?.map .string

namespace Front

def token : Front → Token
  | scalar x => x.token
  | openArray => ['[']
  | openObject => ['{']

def head? : Front → Option Head
  | scalar x => x.head?
  | openArray => some .openArray
  | openObject => some .openObject

def opening : Front → Opening
  | scalar _ => .scalar
  | openArray => .array
  | openObject => .object

/-- A number does not go on in the text behind it. -/
def Ended : Front → List Char → Prop
  | scalar _, t => Ends t
  | openArray, _ => True
  | openObject, _ => True

theorem dropBlanks_append {bs : List Char} (hbs : Blanks bs) (f : Front) (t : List Char) :
    dropBlanks (bs ++ (f.token ++ t)) = f.token ++ t := by
  rw [Json.dropBlanks_append hbs]
  cases f with
  | scalar x =>
    obtain ⟨c, x', _, hx, hc, -⟩ := x.begins
    simp only [List.cons.injEq] at hx
    rw [token, hx.1]
    exact dropBlanks_cons hc _
  | openArray => exact dropBlanks_cons (by decide) t
  | openObject => exact dropBlanks_cons (by decide) t

end Front

/-- `front` reads exactly the fronts that stand for something, and answers what they stand for. -/
structure ReadsFront (front : Reader γ) (denote : Front → Option γ) : Prop where
  sound : ∀ {s t : List Char} {g : γ}, front.read s = .ok (g, t) →
    ∃ (f : Front) (bs : List Char), Blanks bs ∧ s = bs ++ (f.token ++ t) ∧ denote f = some g
  complete : ∀ {f : Front} {g : γ} {bs t : List Char}, Blanks bs → denote f = some g →
    f.Ended t → front.read (bs ++ (f.token ++ t)) = .ok (g, t)

theorem literal_eq_ok_iff {word s t : List Char} : literal word s = .ok t ↔ s = word ++ t := by
  constructor
  · exact literal_eq_ok
  · rintro rfl
    induction word with
    | nil => rfl
    | cons c word ih => simpa [literal] using ih

theorem Head.word_eq_ok_iff {word s t : List Char} {h h' : Head} :
    Head.word word h s = .ok (h', t) ↔ s = word ++ t ∧ h' = h := by
  rw [← literal_eq_ok_iff, Head.word]
  cases hl : literal word s with
  | error e => simp
  | ok u => simp [eq_comm, and_comm]

theorem Head.scan_number {c : Char} {s t : List Char} {n : Number}
    (hc : c = '-' ∨ c.isDigit = true) (h : Number.scan (c :: s) = .ok (n, t)) :
    Head.scan (c :: s) = .ok (.number n, t) := by
  rcases hc with rfl | hc
  · simp [Head.scan, h]
  · rw [Head.scan.eq_def]
    split <;> simp_all

theorem Head.scan_sound {s t : List Char} {h : Head} (hscan : Head.scan s = .ok (h, t)) :
    ∃ f : Front, s = f.token ++ t ∧ f.head? = some h := by
  rw [Head.scan.eq_def] at hscan
  split at hscan
  · cases hscan
  · obtain ⟨rfl, rfl⟩ := Head.word_eq_ok_iff.1 hscan
    exact ⟨.scalar .null, rfl, rfl⟩
  · obtain ⟨rfl, rfl⟩ := Head.word_eq_ok_iff.1 hscan
    exact ⟨.scalar (.bool true), rfl, rfl⟩
  · obtain ⟨rfl, rfl⟩ := Head.word_eq_ok_iff.1 hscan
    exact ⟨.scalar (.bool false), rfl, rfl⟩
  · split at hscan
    · cases hscan
    · rename_i x u hx
      cases hscan
      obtain ⟨l, rfl, hl⟩ := Reader.unquoted_eq_ok_iff.1 hx
      refine ⟨.scalar (.string l), ?_, ?_⟩
      · simp [Front.token, Scalar.token, Literal.token]
      · simp [Front.head?, Scalar.head?, hl]
  · cases hscan
    exact ⟨.openArray, rfl, rfl⟩
  · cases hscan
    exact ⟨.openObject, rfl, rfl⟩
  · split_ifs at hscan with hc
    · split at hscan
      · cases hscan
      · rename_i k u hk
        cases hscan
        obtain ⟨n, w, hw, hn, hk⟩ := Number.scan_sound hk
        exact ⟨.scalar (.number n w hn), hw, by simp [Front.head?, Scalar.head?, hk]⟩

theorem Head.scan_complete {f : Front} {h : Head} {t : List Char} (hf : f.head? = some h)
    (ht : f.Ended t) : Head.scan (f.token ++ t) = .ok (h, t) := by
  cases f with
  | openArray =>
    cases hf
    rfl
  | openObject =>
    cases hf
    rfl
  | scalar x =>
    cases x with
    | null =>
      cases hf
      simp [Front.token, Scalar.token, Head.scan, Head.word_eq_ok_iff]
    | bool b =>
      cases hf
      cases b <;> simp [Front.token, Scalar.token, Head.scan, Head.word_eq_ok_iff]
    | string l =>
      obtain ⟨x, hx, rfl⟩ := Option.map_eq_some_iff.1 hf
      have hread : Reader.unquoted.read (l.inner ++ '"' :: t) = .ok (x, t) :=
        Reader.unquoted_eq_ok_iff.2 ⟨l, rfl, hx⟩
      simp [Front.token, Scalar.token, Literal.token, Head.scan, hread]
    | number n w hn =>
      obtain ⟨k, hk, rfl⟩ := Option.map_eq_some_iff.1 hf
      have hread := Number.scan_complete hn hk ht
      obtain ⟨c, w, rfl, hc⟩ := hn.begins
      exact Head.scan_number hc hread

theorem readsFront_head : ReadsFront Reader.head Front.head? where
  sound {s t h} hread := by
    obtain ⟨f, hs, hf⟩ := Head.scan_sound hread
    obtain ⟨bs, hbs, hdrop⟩ := exists_blanks s
    exact ⟨f, bs, hbs, hs ▸ hdrop, hf⟩
  complete {f h bs t} hbs hf ht := by
    simp only [Reader.head, f.dropBlanks_append hbs]
    exact Head.scan_complete hf ht

/-! ### The front of a value that is not kept -/

namespace Opening

theorem map_eq_ok_iff {x : Except Fault (List Char)} {o o' : γ} {t : List Char} :
    x.map (o, ·) = .ok (o', t) ↔ x = .ok t ∧ o' = o := by
  cases x with
  | error e => simp [Except.map]
  | ok u => simp [Except.map, eq_comm, and_comm]

theorem scan_sound {s t : List Char} {o : Opening} (hscan : scan s = .ok (o, t)) :
    ∃ f : Front, s = f.token ++ t ∧ f.opening = o := by
  rw [scan.eq_def] at hscan
  split at hscan
  · cases hscan
  · obtain ⟨hword, rfl⟩ := map_eq_ok_iff.1 hscan
    exact ⟨.scalar .null, by rw [literal_eq_ok hword]; rfl, rfl⟩
  · obtain ⟨hword, rfl⟩ := map_eq_ok_iff.1 hscan
    exact ⟨.scalar (.bool true), by rw [literal_eq_ok hword]; rfl, rfl⟩
  · obtain ⟨hword, rfl⟩ := map_eq_ok_iff.1 hscan
    exact ⟨.scalar (.bool false), by rw [literal_eq_ok hword]; rfl, rfl⟩
  · obtain ⟨hpass, rfl⟩ := map_eq_ok_iff.1 hscan
    obtain ⟨l, rfl⟩ := Quoted.pass_eq_ok_iff.1 hpass
    exact ⟨.scalar (.string l), by simp [Front.token, Scalar.token, Literal.token], rfl⟩
  · cases hscan
    exact ⟨.openArray, rfl, rfl⟩
  · cases hscan
    exact ⟨.openObject, rfl, rfl⟩
  · split_ifs at hscan
    obtain ⟨hpass, rfl⟩ := map_eq_ok_iff.1 hscan
    obtain ⟨n, w, hw, hn⟩ := Number.pass_sound hpass
    exact ⟨.scalar (.number n w hn), hw, rfl⟩

theorem scan_number {c : Char} {s t : List Char} (hc : c = '-' ∨ c.isDigit = true)
    (h : Number.pass (c :: s) = .ok t) : scan (c :: s) = .ok (.scalar, t) := by
  rcases hc with rfl | hc
  · simp [scan, h, Except.map]
  · rw [scan.eq_def]
    split <;> simp_all [Except.map]

theorem scan_complete (f : Front) {t : List Char} (ht : f.Ended t) :
    scan (f.token ++ t) = .ok (f.opening, t) := by
  cases f with
  | openArray => rfl
  | openObject => rfl
  | scalar x =>
    cases x with
    | null =>
      simp [Front.token, Scalar.token, scan, map_eq_ok_iff, literal_eq_ok_iff, Front.opening]
    | bool b =>
      cases b <;>
        simp [Front.token, Scalar.token, scan, map_eq_ok_iff, literal_eq_ok_iff, Front.opening]
    | string l =>
      have hpass : Quoted.pass (l.inner ++ '"' :: t) = .ok t := Quoted.pass_eq_ok_iff.2 ⟨l, rfl⟩
      simp [Front.token, Scalar.token, Literal.token, scan, map_eq_ok_iff, hpass, Front.opening]
    | number n w hn =>
      have hpass := Number.pass_complete hn ht
      obtain ⟨c, w, rfl, hc⟩ := hn.begins
      exact scan_number hc hpass

end Opening

theorem readsFront_opening : ReadsFront Reader.opening fun f => some f.opening where
  sound {s t o} hread := by
    obtain ⟨f, hs, rfl⟩ := Opening.scan_sound hread
    obtain ⟨bs, hbs, hdrop⟩ := exists_blanks s
    exact ⟨f, bs, hbs, hs ▸ hdrop, rfl⟩
  complete {f o bs t} hbs hf ht := by
    cases hf
    simp only [Reader.opening, f.dropBlanks_append hbs]
    exact Opening.scan_complete f ht

/-! ### Values -/

/-- A value is read by its front and what stands behind it. -/
theorem ReadsFront.andThen {front : Reader γ} {denote? : Front → Option γ} {k : γ → Tail α}
    {denote : Tree → Option α} (h : ReadsFront front denote?)
    (hscalar : ∀ x s t a, (∃ g, denote? (.scalar x) = some g ∧ (k g).read s = .ok (a, t)) ↔
      denote (.scalar x) = some a ∧ s = t)
    (harray : ∃ g, denote? .openArray = some g ∧ Reads (k g).read
      (fun vs : List Tree => enclosed ']' (vs.map Tree.tokens)) fun vs => denote (.array vs))
    (hobject : ∃ g, denote? .openObject = some g ∧ Reads (k g).read
      (fun ms : List (Literal × Tree) => enclosed '}' (ms.map Tree.memberTokens))
      fun ms => denote (.object ms)) :
    Reads (front.andThen k).read Tree.tokens denote where
  sound {s u a} hread := by
    obtain ⟨g, t, hfront, hrest⟩ := Reader.andThen_eq_ok_iff.1 hread
    obtain ⟨f, bs, hbs, rfl, hf⟩ := h.sound hfront
    cases f with
    | scalar x =>
      obtain ⟨ha, rfl⟩ := (hscalar x t u a).1 ⟨g, hf, hrest⟩
      refine ⟨.scalar x, bs ++ (x.token ++ []), by simp [Front.token], ?_, ha⟩
      rw [Tree.tokens_scalar]
      exact .cons hbs .nil
    | openArray =>
      obtain ⟨g', hg', hitems⟩ := harray
      cases hf.symm.trans hg'
      obtain ⟨vs, w, rfl, hw, ha⟩ := hitems.sound hrest
      refine ⟨.array vs, bs ++ (['['] ++ w), by simp [Front.token], ?_, ha⟩
      rw [Tree.tokens_array]
      exact .cons hbs hw
    | openObject =>
      obtain ⟨g', hg', hmembers⟩ := hobject
      cases hf.symm.trans hg'
      obtain ⟨ms, w, rfl, hw, ha⟩ := hmembers.sound hrest
      refine ⟨.object ms, bs ++ (['{'] ++ w), by simp [Front.token], ?_, ha⟩
      rw [Tree.tokens_object]
      exact .cons hbs hw
  complete {v w t a} hw ha ht := by
    cases v with
    | scalar x =>
      obtain ⟨g, hg, hrest⟩ := (hscalar x t t a).2 ⟨ha, rfl⟩
      rw [Tree.tokens_scalar] at hw
      obtain ⟨bs, s, rfl, hbs, hs⟩ := spaced_cons_iff.1 hw
      rw [spaced_nil_iff.1 hs, List.append_nil, List.append_assoc]
      have hfront := h.complete hbs hg (show (Front.scalar x).Ended t from ht)
      exact Reader.andThen_eq_ok_iff.2 ⟨g, t, hfront, hrest⟩
    | array vs =>
      obtain ⟨g, hg, hitems⟩ := harray
      rw [Tree.tokens_array] at hw
      obtain ⟨bs, s, rfl, hbs, hs⟩ := spaced_cons_iff.1 hw
      rw [List.append_assoc, List.append_assoc]
      have hfront := h.complete hbs hg (show Front.openArray.Ended (s ++ t) from trivial)
      exact Reader.andThen_eq_ok_iff.2 ⟨g, s ++ t, hfront, hitems.complete hs ha ht⟩
    | object ms =>
      obtain ⟨g, hg, hmembers⟩ := hobject
      rw [Tree.tokens_object] at hw
      obtain ⟨bs, s, rfl, hbs, hs⟩ := spaced_cons_iff.1 hw
      rw [List.append_assoc, List.append_assoc]
      have hfront := h.complete hbs hg (show Front.openObject.Ended (s ++ t) from trivial)
      exact Reader.andThen_eq_ok_iff.2 ⟨g, s ++ t, hfront, hmembers.complete hs ha ht⟩

/-! ### Scalars -/

/-- A reader of scalars takes no bracket. -/
theorem reads_head_check {f : Head → Option α} {denote : Tree → Option α}
    (hscalar : ∀ x : Scalar, denote (.scalar x) = x.head?.bind f)
    (harray : ∀ vs, denote (.array vs) = none) (hobject : ∀ ms, denote (.object ms) = none)
    (hopenArray : f .openArray = none) (hopenObject : f .openObject = none) :
    Reads (Reader.head.check f).read Tree.tokens denote := by
  refine readsFront_head.andThen ?_ ⟨.openArray, rfl, ?_⟩ ⟨.openObject, rfl, ?_⟩
  · intro x s t a
    rw [hscalar, Option.bind_eq_some_iff]
    constructor
    · rintro ⟨h, hx, hread⟩
      obtain ⟨ha, rfl⟩ := Tail.answer_eq_ok_iff.1 hread
      exact ⟨⟨h, hx, ha⟩, rfl⟩
    · rintro ⟨⟨h, hx, ha⟩, rfl⟩
      exact ⟨h, hx, Tail.answer_eq_ok_iff.2 ⟨ha, rfl⟩⟩
  · rw [hopenArray]
    exact (reads_error .mismatch).congr fun vs => (harray vs).symm
  · rw [hopenObject]
    exact (reads_error .mismatch).congr fun ms => (hobject ms).symm

namespace Tree

/-- The string that a value is. -/
def string? : Tree → Option String
  | scalar (.string l) => l.string?
  | _ => none

/-- The truth value that a value is. -/
def bool? : Tree → Option Bool
  | scalar (.bool b) => some b
  | _ => none

/-- The value is `null`. -/
def null? : Tree → Option Unit
  | scalar .null => some ()
  | _ => none

/-- Nothing for `null`, otherwise what the value stands for. -/
def optional? (denote : Tree → Option α) : Tree → Option (Option α)
  | scalar .null => some none
  | v => (denote v).map some

/-- One of several names: a string, or an object of one member that is `null`. -/
def name? (f : String → Option α) : Tree → Option α
  | scalar (.string l) => l.string?.bind f
  | object [(k, scalar .null)] => k.string?.bind f
  | _ => none

end Tree

theorem reads_null : Reads Reader.null.read Tree.tokens Tree.null? := by
  refine reads_head_check ?_ (fun _ => rfl) (fun _ => rfl) rfl rfl
  intro x
  cases x with
  | null => rfl
  | bool b => rfl
  | number n u hn =>
    simp only [Scalar.head?, Tree.null?]
    cases n.number? <;> rfl
  | string l =>
    simp only [Scalar.head?, Tree.null?]
    cases l.string? <;> rfl

theorem reads_bool : Reads Reader.bool.read Tree.tokens Tree.bool? := by
  refine reads_head_check ?_ (fun _ => rfl) (fun _ => rfl) rfl rfl
  intro x
  cases x with
  | null => rfl
  | bool b => rfl
  | number n u hn =>
    simp only [Scalar.head?, Tree.bool?]
    cases n.number? <;> rfl
  | string l =>
    simp only [Scalar.head?, Tree.bool?]
    cases l.string? <;> rfl

theorem reads_string : Reads Reader.string.read Tree.tokens Tree.string? := by
  refine reads_head_check ?_ (fun _ => rfl) (fun _ => rfl) rfl rfl
  intro x
  cases x with
  | null => rfl
  | bool b => rfl
  | number n u hn =>
    simp only [Scalar.head?, Tree.string?]
    cases n.number? <;> rfl
  | string l =>
    simp only [Scalar.head?, Tree.string?]
    cases l.string? <;> rfl

/-! ### Choices by the first character -/

/-- Behind the blanks in front of it a value starts as values of its kind do. -/
theorem Tree.starts_of_spaced {v : Tree} {w : List Char} (h : Spaced v.tokens w) (t : List Char) :
    ∃ c s, dropBlanks (w ++ t) = c :: s ∧ v.Starts c := by
  obtain ⟨c, s, hdrop, hc, -⟩ := v.begins.dropBlanks h t
  exact ⟨c, s ++ t, hdrop, hc⟩

theorem Tree.starts_n_iff {v : Tree} : v.Starts 'n' ↔ v.null? = some () := by
  cases v with
  | scalar x => cases x <;> simp [Starts, Scalar.Starts, null?]
  | array vs => simp [Starts, null?]
  | object ms => simp [Starts, null?]

theorem Tree.null?_eq_some_iff {v : Tree} {a : Unit} : v.null? = some a ↔ v = scalar .null := by
  rw [null?.eq_def]
  split
  · simp
  · simp_all

theorem Tree.optional?_of_ne {v : Tree} (denote : Tree → Option α) (h : v ≠ scalar .null) :
    v.optional? denote = (denote v).map some := by
  rw [optional?.eq_def]
  split
  · exact absurd rfl h
  · rfl

theorem Reader.optional_read (r : Reader α) (s : List Char) :
    (optional r).read s =
      if (dropBlanks s).head? = some 'n' then (null.map fun _ => none).read s
      else (r.map some).read s := by
  simp only [optional]
  split
  · simp_all
  · rename_i hdrop
    rw [if_neg]
    intro hhead
    obtain ⟨u, hu⟩ := List.head?_eq_some_iff.1 hhead
    exact hdrop u hu

theorem Reads.optional {r : Reader α} {denote : Tree → Option α}
    (h : Reads r.read Tree.tokens denote) :
    Reads (Reader.optional r).read Tree.tokens (Tree.optional? denote) where
  sound {s t a} hread := by
    rw [Reader.optional_read] at hread
    split_ifs at hread with hhead
    · obtain ⟨v, w, rfl, hw, hv⟩ := (reads_null.map fun _ => none).sound hread
      obtain ⟨_, hnull, rfl⟩ := Option.map_eq_some_iff.1 hv
      cases Tree.null?_eq_some_iff.1 hnull
      exact ⟨_, w, rfl, hw, rfl⟩
    · obtain ⟨v, w, rfl, hw, hv⟩ := (h.map some).sound hread
      refine ⟨v, w, rfl, hw, ?_⟩
      obtain ⟨c, s, hdrop, hc⟩ := Tree.starts_of_spaced hw t
      rw [Tree.optional?_of_ne denote, hv]
      rintro rfl
      rw [hdrop] at hhead
      exact hhead (congrArg some hc)
  complete {v w t a} hw hv ht := by
    obtain ⟨c, s, hdrop, hc⟩ := Tree.starts_of_spaced hw t
    rw [Reader.optional_read, hdrop, List.head?_cons]
    by_cases hnull : v = .scalar .null
    · subst hnull
      cases hv
      rw [if_pos (congrArg some hc)]
      exact (reads_null.map fun _ => none).complete hw rfl ht
    · have hne : ¬some c = some 'n' := by
        rintro hcn
        cases hcn
        exact hnull (Tree.null?_eq_some_iff.1 (Tree.starts_n_iff.1 hc))
      rw [if_neg hne]
      rw [Tree.optional?_of_ne denote hnull] at hv
      exact (h.map some).complete hw hv ht

/-- The rest of a name that is given as an object, behind the bracket that opens it. -/
theorem reads_nameObject (f : String → Option α) :
    Reads ((Reader.key.check f).andThen fun a =>
        ((Reader.symbol ':').tail.andThen fun _ => Reader.null.tail.andThen fun _ =>
          (Reader.symbol '}').tail).map fun _ => a).read
      (fun m : Literal × Tree => enclosed '}' [Tree.memberTokens m])
      fun m => Tree.name? f (.object [m]) := by
  have hclose : Reads (Reader.null.tail.andThen fun _ => (Reader.symbol '}').tail).read
      (fun p : Tree × Unit => p.1.tokens ++ [['}']]) fun p => p.1.null?.bind fun _ => some () :=
    Reads.andThen (r := Reader.null.tail) reads_null (fun _ => reads_symbol (by decide))
      fun _ => ⟨'}', [], [], rfl, by decide, by simp [Stops]⟩
  have hvalue (a : α) := (hclose.behind (c := ':') (by decide)).andThen_answer fun _ => some a
  have hkey := Reads.andThen (r := (Reader.key.check f).tail) (reads_key.check f) hvalue
    fun _ => ⟨':', [], _, rfl, by decide, by simp [Stops]⟩
  refine Reads.reindex (fun p => (p.1, p.2.1)) (fun m => ⟨(m.1, m.2, ()), rfl⟩) hkey ?_ ?_
  · rintro ⟨l, v, _⟩
    rfl
  · rintro ⟨l, v, _⟩
    cases v with
    | scalar x => cases x <;> simp [Tree.name?, Tree.null?]
    | array vs => simp [Tree.name?, Tree.null?]
    | object ms => simp [Tree.name?, Tree.null?]

theorem Tree.name?_of_string? {f : String → Option α} {v : Tree} {a : α}
    (h : v.string?.bind f = some a) : v.name? f = some a := by
  cases v with
  | scalar x => cases x <;> simp_all [string?, name?]
  | array vs => simp [string?] at h
  | object ms => simp [string?] at h

theorem Tree.eq_singleton_of_name? {f : String → Option α} {ms : List (Literal × Tree)} {a : α}
    (h : (object ms).name? f = some a) : ∃ m, ms = [m] := by
  rw [name?.eq_def] at h
  split at h
  · cases ‹object _ = scalar _›
  · cases ‹object _ = object _›
    exact ⟨_, rfl⟩
  · cases h

theorem reads_name (f : String → Option α) :
    Reads (Reader.name f).read Tree.tokens (Tree.name? f) where
  sound {s t a} hread := by
    simp only [Reader.name] at hread
    split at hread
    · cases hread
    · obtain ⟨v, w, rfl, hw, hv⟩ := (reads_string.check f).sound hread
      exact ⟨v, w, rfl, hw, Tree.name?_of_string? hv⟩
    · rename_i u hdrop
      obtain ⟨m, w, rfl, hw, hm⟩ := (reads_nameObject f).sound hread
      obtain ⟨bs, hbs, hs⟩ := exists_blanks s
      refine ⟨.object [m], bs ++ (['{'] ++ w), by rw [hs, hdrop]; simp, ?_, hm⟩
      rw [Tree.tokens_object]
      exact .cons hbs hw
    · cases hread
  complete {v w t a} hw ha ht := by
    cases v with
    | array vs => simp [Tree.name?] at ha
    | object ms =>
      obtain ⟨m, rfl⟩ := Tree.eq_singleton_of_name? ha
      rw [Tree.tokens_object] at hw
      obtain ⟨bs, w, rfl, hbs, hw⟩ := spaced_cons_iff.1 hw
      have hdrop : dropBlanks (bs ++ (['{'] ++ w) ++ t) = '{' :: (w ++ t) := by
        rw [List.append_assoc, dropBlanks_append hbs]
        exact dropBlanks_cons (by decide) _
      simp only [Reader.name, hdrop]
      exact (reads_nameObject f).complete hw ha ht
    | scalar x =>
      obtain ⟨c, s, hdrop, hc⟩ := Tree.starts_of_spaced hw t
      cases x with
      | null => simp [Tree.name?] at ha
      | bool b => simp [Tree.name?] at ha
      | number n u hn => simp [Tree.name?] at ha
      | string l =>
        cases hc
        simp only [Reader.name, hdrop]
        exact (reads_string.check f).complete hw ha ht

end SlideGraph.Json
