import SlideGraph.Json.Reader.Container
import SlideGraph.Proofs.Json.Reader.Basic

/-!
# What readers of containers read

Items between commas are read one after another, each into what has been made of the items before
it. So a reader of a container is described by the step that it takes with one item, and reads a
list of items if the steps lead through all of them.
-/

namespace SlideGraph.Json

variable {ι α β σ : Type}

/-! ### Items between commas -/

section

variable {close : Char} {item : σ → Reader σ} {tokens : ι → List Token} {step : σ → ι → Option σ}
  {P : σ → Prop}

/-- What stands behind an item ends a number. -/
theorem begins_behind (hclose : close = ']' ∨ close = '}') (ps : List (List Token)) :
    Begins Stops (behind close ps) := by
  cases ps with
  | nil => rcases hclose with rfl | rfl <;> exact ⟨_, [], [], rfl, by decide, by simp [Stops]⟩
  | cons p ps => exact ⟨',', [], _, rfl, by decide, by simp [Stops]⟩

theorem delimitedRest_of_close {acc : σ} {s t : List Char} (hdrop : dropBlanks s = close :: t) :
    delimitedRest close item acc s = .ok (acc, t) := by
  rw [delimitedRest.eq_def]
  split
  · simp_all
  · simp_all

theorem delimitedRest_of_comma {acc acc' : σ} {s t u : List Char} (hclose : close ≠ ',')
    (hdrop : dropBlanks s = ',' :: t) (hitem : (item acc).read t = .ok (acc', u)) :
    delimitedRest close item acc s = delimitedRest close item acc' u := by
  rw [delimitedRest.eq_def]
  split
  · simp_all
  · rename_i c t' hdrop'
    cases hdrop.symm.trans hdrop'
    rw [if_neg hclose.symm, if_pos rfl]
    split
    · simp_all
    · simp_all

/-- The items have to be read as described only from what the steps can lead to. -/
theorem reads_delimitedRest (hclose : close = ']' ∨ close = '}')
    (h : ∀ acc, P acc → Reads (item acc).read tokens (step acc))
    (hstep : ∀ {acc acc' i}, P acc → step acc i = some acc' → P acc') {acc : σ} (hacc : P acc) :
    Reads (delimitedRest close item acc) (fun is : List ι => behind close (is.map tokens))
      fun is => is.foldlM step acc where
  sound {s u b} hread := by
    have hblank : isBlank close = false ∧ isBlank ',' = false := by
      rcases hclose with rfl | rfl <;> decide
    -- the steps so far are in `acc`, and `hstep` carries `P` along
    fun_induction delimitedRest close item acc s with
    | case1 => cases hread
    | case2 acc s t hdrop =>
      cases hread
      obtain ⟨bs, hbs, hs⟩ := exists_blanks s
      refine ⟨[], bs ++ ([close] ++ []), by rw [hs, hdrop]; simp, .cons hbs .nil, rfl⟩
    | case3 => cases hread
    | case4 acc s t acc' u' hitem hdrop _ ih =>
      obtain ⟨i, w, rfl, hw, hi⟩ := (h acc hacc).sound hitem
      obtain ⟨is, w', rfl, hw', hb⟩ := ih (hstep hacc hi) hread
      obtain ⟨bs, hbs, hs⟩ := exists_blanks s
      refine ⟨i :: is, bs ++ ([','] ++ (w ++ w')), by rw [hs, hdrop]; simp, ?_, ?_⟩
      · exact .cons hbs (spaced_append_iff.2 ⟨w, w', rfl, hw, hw'⟩)
      · simp [hi, hb]
    | case5 => cases hread
  complete {is w t b} hw hb ht := by
    have hblank : isBlank close = false ∧ close ≠ ',' := by
      rcases hclose with rfl | rfl <;> decide
    induction is generalizing acc w with
    | nil =>
      cases hb
      obtain ⟨bs, s, rfl, hbs, hs⟩ := spaced_cons_iff.1 hw
      cases spaced_nil_iff.1 hs
      refine delimitedRest_of_close ?_
      rw [List.append_assoc, dropBlanks_append hbs]
      exact dropBlanks_cons hblank.1 _
    | cons i is ih =>
      obtain ⟨bs, s, rfl, hbs, hs⟩ := spaced_cons_iff.1 hw
      obtain ⟨u, v, rfl, hu, hv⟩ := spaced_append_iff.1 hs
      rw [List.foldlM_cons] at hb
      obtain ⟨acc', hi, hb⟩ := Option.bind_eq_some_iff.1 hb
      have hdrop : dropBlanks (bs ++ ([','] ++ (u ++ v)) ++ t) = ',' :: (u ++ (v ++ t)) := by
        rw [List.append_assoc, dropBlanks_append hbs, List.append_assoc, List.append_assoc]
        exact dropBlanks_cons (by decide) _
      -- the comma or bracket behind the item ends a number in it
      have hitem := (h acc hacc).complete hu hi ((begins_behind hclose _).ends hv t)
      rw [delimitedRest_of_comma hblank.2 hdrop hitem]
      exact ih (hstep hacc hi) hv hb

theorem reads_delimited_of (hclose : close = ']' ∨ close = '}')
    (hbegins : ∀ i, Begins (· ≠ close) (tokens i))
    (h : ∀ acc, P acc → Reads (item acc).read tokens (step acc))
    (hstep : ∀ {acc acc' i}, P acc → step acc i = some acc' → P acc') {acc : σ} (hacc : P acc) :
    Reads (Tail.delimited close item acc).read
      (fun is : List ι => enclosed close (is.map tokens)) fun is => is.foldlM step acc where
  sound {s u b} hread := by
    simp only [Tail.delimited, delimitedFrom] at hread
    obtain ⟨bs, hbs, hs⟩ := exists_blanks s
    split at hread
    · cases hread
    · rename_i c t hdrop
      split_ifs at hread with hc
      · cases hread
        exact ⟨[], bs ++ ([close] ++ []), by rw [hs, hdrop, hc]; simp, .cons hbs .nil, rfl⟩
      · split at hread
        · cases hread
        · rename_i acc' t' hitem
          obtain ⟨i, w, hct, hw, hi⟩ := (h acc hacc).sound hitem
          have hrest := reads_delimitedRest hclose h hstep (hstep hacc hi)
          obtain ⟨is, w', rfl, hw', hb⟩ := hrest.sound hread
          refine ⟨i :: is, bs ++ (w ++ w'), by rw [hs, hdrop, hct]; simp, ?_, ?_⟩
          · obtain ⟨d, x, rest, hx, -, -⟩ := hbegins i
            have henclosed := spaced_append_iff.2 ⟨w, w', rfl, hw, hw'⟩
            rw [hx] at henclosed
            rw [List.map_cons, enclosed, hx]
            exact henclosed.blanks hbs
          · simp [hi, hb]
  complete {is w t b} hw hb ht := by
    simp only [Tail.delimited, delimitedFrom]
    cases is with
    | nil =>
      cases hb
      obtain ⟨bs, s, rfl, hbs, hs⟩ := spaced_cons_iff.1 hw
      cases spaced_nil_iff.1 hs
      have hblank : isBlank close = false := by rcases hclose with rfl | rfl <;> decide
      have hdrop : dropBlanks (bs ++ ([close] ++ []) ++ t) = close :: t := by
        rw [List.append_assoc, dropBlanks_append hbs]
        exact dropBlanks_cons hblank _
      simp only [hdrop, if_true]
    | cons i is =>
      obtain ⟨u, v, rfl, hu, hv⟩ := spaced_append_iff.1 hw
      rw [List.foldlM_cons] at hb
      obtain ⟨acc', hi, hb⟩ := Option.bind_eq_some_iff.1 hb
      obtain ⟨c, s, hdrop, hc, hs⟩ := (hbegins i).dropBlanks hu (v ++ t)
      have hitem := (h acc hacc).complete hs hi ((begins_behind hclose _).ends hv t)
      have hrest := (reads_delimitedRest hclose h hstep (hstep hacc hi)).complete hv hb ht
      rw [List.cons_append] at hitem hdrop
      simp only [List.append_assoc, hdrop, if_neg hc, hitem]
      exact hrest

theorem reads_delimited (hclose : close = ']' ∨ close = '}')
    (hbegins : ∀ i, Begins (· ≠ close) (tokens i))
    (h : ∀ acc, Reads (item acc).read tokens (step acc)) (acc : σ) :
    Reads (Tail.delimited close item acc).read
      (fun is : List ι => enclosed close (is.map tokens)) fun is => is.foldlM step acc :=
  reads_delimited_of (P := fun _ => True) hclose hbegins (fun acc _ => h acc) (fun _ _ => trivial)
    trivial

end

theorem begins_item (v : Tree) : Begins (· ≠ ']') v.tokens :=
  v.begins.mono fun _ hc => hc.ne.1

theorem begins_member (m : Literal × Tree) : Begins (· ≠ '}') (Tree.memberTokens m) :=
  ⟨'"', _, _, rfl, by decide, by decide⟩

/-- Items may be taken apart one by one or all of them first. -/
theorem foldlM_bind (f : ι → Option α) (g : σ → α → Option σ) (is : List ι) (acc : σ) :
    is.foldlM (fun acc i => (f i).bind (g acc)) acc =
      (is.mapM f).bind fun as => as.foldlM g acc := by
  induction is generalizing acc with
  | nil => rfl
  | cons i is ih =>
    rw [List.foldlM_cons, List.mapM_cons]
    cases f i with
    | none => rfl
    | some a =>
      simp only [Option.bind_eq_bind, Option.bind_some, ih]
      cases hg : g acc a <;> cases is.mapM f <;> simp [hg]

theorem foldlM_map (f : ι → Option α) (g : σ → α → σ) (is : List ι) (acc : σ) :
    is.foldlM (fun acc i => (f i).map (g acc)) acc =
      (is.mapM f).map fun as => as.foldl g acc := by
  have h := foldlM_bind f (fun acc a => some (g acc a)) is acc
  have hpure (as : List α) : as.foldlM (fun acc a => some (g acc a)) acc = some (as.foldl g acc) :=
    List.foldlM_pure
  simpa [Option.map_eq_bind, Function.comp_def, hpure] using h

/-! ### Lists and maps -/

theorem Scalar.head?_ne {x : Scalar} {h : Head} (hx : x.head? = some h) :
    h ≠ .openArray ∧ h ≠ .openObject := by
  cases x with
  | null =>
    cases hx
    simp
  | bool b =>
    cases hx
    simp
  | number n w hn =>
    obtain ⟨k, -, rfl⟩ := Option.map_eq_some_iff.1 hx
    simp
  | string l =>
    obtain ⟨s, -, rfl⟩ := Option.map_eq_some_iff.1 hx
    simp

/-- A reader of containers takes no scalar. -/
theorem reads_container {k : Head → Tail α} {denote : Tree → Option α}
    (hfail : ∀ h, h ≠ .openArray → h ≠ .openObject → k h = .fail .mismatch)
    (hscalar : ∀ x, denote (.scalar x) = none)
    (harray : Reads (k .openArray).read (fun vs : List Tree => enclosed ']' (vs.map Tree.tokens))
      fun vs => denote (.array vs))
    (hobject : Reads (k .openObject).read
      (fun ms : List (Literal × Tree) => enclosed '}' (ms.map Tree.memberTokens))
      fun ms => denote (.object ms)) :
    Reads (Reader.head.andThen k).read Tree.tokens denote := by
  refine readsFront_head.andThen ?_ ⟨_, rfl, harray⟩ ⟨_, rfl, hobject⟩
  intro x s t a
  rw [hscalar]
  constructor
  · rintro ⟨h, hx, hread⟩
    obtain ⟨harray, hobject⟩ := Scalar.head?_ne hx
    rw [hfail h harray hobject] at hread
    cases hread
  · rintro ⟨ha, -⟩
    cases ha

/-- The list that a value is, of items that stand for something. -/
def Tree.list? (denote : Tree → Option α) : Tree → Option (List α)
  | array vs => vs.mapM denote
  | _ => none

theorem Reads.items {r : Reader α} {denote : Tree → Option α}
    (h : Reads r.read Tree.tokens denote) :
    Reads (Tail.items r).read (fun vs : List Tree => enclosed ']' (vs.map Tree.tokens))
      fun vs => vs.mapM denote := by
  have hitems := reads_delimited (.inl rfl) begins_item (fun acc => h.map (· :: acc)) []
  refine (hitems.andThen_answer fun as => some as.reverse).congr ?_
  intro vs
  rw [foldlM_map]
  cases vs.mapM denote <;> simp

theorem Reads.list {r : Reader α} {denote : Tree → Option α}
    (h : Reads r.read Tree.tokens denote) :
    Reads (Reader.list r).read Tree.tokens (Tree.list? denote) := by
  refine reads_container ?_ (fun _ => rfl) h.items (reads_error .mismatch)
  intro h harray _
  cases h <;> first | rfl | exact absurd rfl harray

/-- The key of a member and what its value stands for. -/
def Tree.binding? (denote : Tree → Option α) (m : Literal × Tree) : Option (String × α) :=
  m.1.string?.bind fun k => (denote m.2).map (k, ·)

/-- The members of an object in their order. -/
def Tree.entries? (denote : Tree → Option α) : Tree → Option (List (String × α))
  | object ms => ms.mapM (binding? denote)
  | _ => none

theorem reads_member {next : String → Except Fault (Reader α)}
    (denote : String → Tree → Option α)
    (hok : ∀ k r, next k = .ok r → Reads r.read Tree.tokens (denote k))
    (herror : ∀ k e, next k = .error e → ∀ v, denote k v = none) :
    Reads (Reader.member next).read Tree.memberTokens
      fun m => m.1.string?.bind fun k => denote k m.2 := by
  refine Reads.andThen (r := Reader.key.tail) reads_key
    (fun k => ?_) fun _ => ⟨':', [], _, rfl, by decide, by simp [Stops]⟩
  split
  · rename_i e he
    exact (reads_error e).congr fun v => (herror k e he v).symm
  · rename_i r hr
    exact Reads.behind (r := r.tail) (by decide) (hok k r hr)

/-- A member that is put into what the members before it have made. -/
theorem Reads.binding {put : String → α → σ → σ} {r : Reader α} {denote : Tree → Option α}
    (h : Reads r.read Tree.tokens denote) (acc : σ) :
    Reads (Reader.member fun k => .ok (r.map fun a => put k a acc)).read Tree.memberTokens
      fun m => (Tree.binding? denote m).map fun e => put e.1 e.2 acc := by
  have hnext (k : String) (r' : Reader σ)
      (hr' : (.ok (r.map fun a => put k a acc) : Except Fault (Reader σ)) = .ok r') :
      Reads r'.read Tree.tokens fun v => (denote v).map fun a => put k a acc := by
    cases hr'
    exact h.map _
  refine (reads_member _ hnext fun k e he => nomatch he).congr ?_
  intro m
  rw [Tree.binding?]
  cases m.1.string? with
  | none => rfl
  | some k => simp [Function.comp_def]

theorem Reads.bindings {put : String → α → σ → σ} {empty : σ} {r : Reader α}
    {denote : Tree → Option α} (h : Reads r.read Tree.tokens denote) :
    Reads (Tail.delimited '}' (fun acc => Reader.member fun k => .ok (r.map fun a => put k a acc))
        empty).read (fun ms : List (Literal × Tree) => enclosed '}' (ms.map Tree.memberTokens))
      fun ms => (ms.mapM (Tree.binding? denote)).map fun es =>
        es.foldl (fun m e => put e.1 e.2 m) empty := by
  refine (reads_delimited (.inr rfl) begins_member h.binding empty).congr ?_
  intro ms
  exact foldlM_map (Tree.binding? denote) (fun m e => put e.1 e.2 m) ms empty

theorem Reads.entries {put : String → α → σ → σ} {empty : σ} {r : Reader α}
    {denote : Tree → Option α} (h : Reads r.read Tree.tokens denote) :
    Reads (Reader.entries put empty r).read Tree.tokens
      fun v => (v.entries? denote).map fun es => es.foldl (fun m e => put e.1 e.2 m) empty := by
  refine reads_container ?_ (fun _ => rfl) (reads_error .mismatch) h.bindings
  intro h _ hobject
  cases h <;> first | rfl | exact absurd rfl hobject

/-! ### Values that nobody asks for -/

/-- Steps that only look at their items lead through all of them or fail. -/
theorem foldlM_guard (p : ι → Bool) (is : List ι) :
    is.foldlM (fun _ i => if p i then some () else none) () =
      if is.all p then some () else none := by
  induction is with
  | nil => rfl
  | cons i is ih =>
    rw [List.foldlM_cons, List.all_cons]
    cases p i with
    | true => simpa using ih
    | false => rfl

/-- A member whose key is not kept. -/
theorem reads_memberAway {r : Reader α} {denote : Tree → Option α}
    (h : Reads r.read Tree.tokens denote) :
    Reads ((Reader.symbol '"').andThen fun _ => Reader.unquotedAway.tail.andThen fun _ =>
        (Reader.symbol ':').tail.andThen fun _ => r.tail).read Tree.memberTokens
      fun m => denote m.2 where
  sound hread := by
    obtain ⟨_, t, hquote, hread⟩ := Reader.andThen_eq_ok_iff.1 hread
    obtain ⟨_, t₁, hkey, hvalue⟩ := Tail.andThen_eq_ok_iff.1 hread
    obtain ⟨bs, hbs, rfl⟩ := (Reader.symbol_eq_ok_iff (by decide)).1 hquote
    obtain ⟨l, rfl⟩ := Reader.unquotedAway_eq_ok_iff.1 hkey
    obtain ⟨v, w, rfl, hw, hv⟩ := (Reads.behind (r := r.tail) (by decide) h).sound hvalue
    exact ⟨(l, v), bs ++ (l.token ++ w), by simp [Literal.token], .cons hbs hw, hv⟩
  complete {m w t a} hw hv ht := by
    obtain ⟨l, v⟩ := m
    obtain ⟨bs, w, rfl, hbs, hw⟩ := spaced_cons_iff.1 hw
    have hvalue := (Reads.behind (r := r.tail) (by decide) h).complete hw hv ht
    refine Reader.andThen_eq_ok_iff.2 ⟨(), l.inner ++ '"' :: (w ++ t), ?_, ?_⟩
    · exact (Reader.symbol_eq_ok_iff (by decide)).2 ⟨bs, hbs, by simp [Literal.token]⟩
    · exact Tail.andThen_eq_ok_iff.2
        ⟨(), w ++ t, Reader.unquotedAway_eq_ok_iff.2 ⟨l, rfl⟩, hvalue⟩

/-- A value is gone over where its brackets are few enough. -/
theorem reads_passTo (depth : Nat) :
    Reads (Reader.passTo depth).read Tree.tokens
      fun v => if v.within depth then some () else none := by
  induction depth with
  | zero =>
    refine readsFront_opening.andThen ?_ ⟨_, rfl, ?_⟩ ⟨_, rfl, ?_⟩
    · intro x s t a
      simp [Front.opening, Tree.within, Tail.done]
    · exact reads_error .malformed
    · exact reads_error .malformed
  | succ depth ih =>
    refine readsFront_opening.andThen ?_ ⟨_, rfl, ?_⟩ ⟨_, rfl, ?_⟩
    · intro x s t a
      simp [Front.opening, Tree.within, Tail.done]
    · refine (reads_delimited (.inl rfl) begins_item (fun _ => ih) ()).congr ?_
      intro vs
      exact foldlM_guard _ vs
    · refine (reads_delimited (.inr rfl) begins_member (fun _ => reads_memberAway ih) ()).congr ?_
      intro ms
      exact foldlM_guard _ ms

/-- A value of any depth is gone over. -/
theorem reads_ignored : Reads Reader.ignored.read Tree.tokens fun _ => some () where
  sound hread := by
    obtain ⟨v, w, rfl, hw, -⟩ := (reads_passTo _).sound hread
    exact ⟨v, w, rfl, hw, rfl⟩
  complete {v w t a} hw _ ht := by
    -- the reader allows as many open brackets as there are characters, which is always enough
    have hwithin : v.within (w ++ t).length = true := hw.within (by simp)
    exact (reads_passTo _).complete hw (if_pos hwithin) ht

end SlideGraph.Json
