import Mathlib
import SlideGraph.Engine
import SlideGraph.Proofs.Catalog.Overlay
import SlideGraph.Proofs.Disk
import SlideGraph.Proofs.Slide.Document

/-!
# Ways to load a catalog

A deck is read from a text or from a file, at once or by waiting for the file. A catalog is built
of it, and the first flags may be set in a game state where that stands, one by one. Here the ways
to do so are composed step by step, and what has been done when one fails is not taken back. They
all come to what the bytes of the file say, and nothing touches the state before a catalog is there.
-/

namespace SlideGraph

/-! ### Waiting for files -/

/-- A computation that may wait for the text of a file before it goes on. -/
inductive Waiting (α : Type)
  | done (a : α)
  | read (path : String) (next : Except FileFault String → Waiting α)

namespace Waiting

variable {α β : Type}

def bind : Waiting α → (α → Waiting β) → Waiting β
  | done a, f => f a
  | read path next, f => read path fun text => (next text).bind f

instance : Monad Waiting where
  pure := done
  bind := bind

/-- What it comes to when the files are on a disk. -/
def on (d : Disk) : Waiting α → α
  | done a => a
  | read path next => (next (d.readText path)).on d

theorem on_bind (d : Disk) (w : Waiting α) (f : α → Waiting β) :
    (w >>= f).on d = (f (w.on d)).on d := by
  induction w with
  | done a => rfl
  | read path next ih => exact ih (d.readText path)

end Waiting

namespace Source

variable {α β : Type} {d : Disk} {path : String}

/-! ### Steps -/

/-- A game state that is changed where it stands, and the log so far. -/
structure Live where
  state : GameState
  log : List LogRecord

/-- What may fail when it is partly done. -/
abbrev Attempt (α : Type) := ExceptT LoadError (StateT Live Waiting) α

namespace Attempt

/-- The answer of an attempt, and what is left of the state and the log, also if it failed. -/
def on (d : Disk) (a : Attempt α) (live : Live) : Except LoadError α × Live :=
  ((ExceptT.run a).run live).on d

theorem on_bind (d : Disk) (a : Attempt α) (f : α → Attempt β) (live : Live) :
    (a >>= f).on d live =
      match a.on d live with
      | (.error e, live') => (.error e, live')
      | (.ok x, live') => (f x).on d live' := by
  simp only [on, ExceptT.run_bind, StateT.run_bind, Waiting.on_bind]
  rcases ((ExceptT.run a).run live).on d with ⟨_ | _, _⟩ <;> rfl

theorem on_liftExcept (r : Except LoadError α) (live : Live) :
    (liftExcept r : Attempt α).on d live = (r, live) := by
  cases r <;> rfl

/-- Put a record into the log. -/
def tell (r : LogRecord) : Attempt Unit := modify fun live => { live with log := live.log ++ [r] }

/-- Read a file while nothing else goes on. -/
def readNow (d : Disk) (path : String) : Attempt (Except FileFault String) :=
  return d.readText path

/-- Ask for a file and go on when it has been read. -/
def readLater (path : String) : Attempt (Except FileFault String) :=
  liftM (Waiting.read path .done)

/-- The deck of a file that is read in one way or the other. -/
def fileDeck (read : String → Attempt (Except FileFault String)) (path : String) :
    Attempt Deck := do
  match ← read path with
  | .error fault => throw (.unreachable path fault)
  | .ok json => liftExcept (parse path json)

/-- Build a catalog and tell how large it is. -/
def build (first : Nat) (deck : Deck) : Attempt Catalog := do
  let c := Catalog.ofDeck first deck
  tell (.info ("loaded " ++ c.size.repr ++ " slides"))
  return c

/-- Set the first flags, tell how many there are and hand the catalog back. -/
def seeded (c : Catalog) : Attempt Catalog := do
  let live ← get
  let (state, count) := c.sow live.state
  set { live with state }
  tell (.info ("seeded " ++ count.repr ++ " visibility flags"))
  return c

/-! ### Ways -/

/-- The deck of a source. -/
def slides (d : Disk) : Source → Attempt Deck
  | text origin json => liftExcept (parse origin json)
  | file path => fileDeck (readNow d) path

/-- The catalog of a source. -/
def catalog (first : Nat) (d : Disk) (s : Source) : Attempt Catalog := do
  let deck ← slides d s
  build first deck

/-- The catalog of a source, with its first flags set. -/
def load (first : Nat) (d : Disk) (s : Source) : Attempt Catalog := do
  let deck ← slides d s
  let c ← build first deck
  seeded c

/-- The deck of a file that is waited for. -/
def awaitSlides (path : String) : Attempt Deck := fileDeck readLater path

/-- The catalog of a file that is waited for. -/
def awaitCatalog (first : Nat) (path : String) : Attempt Catalog := do
  let deck ← awaitSlides path
  build first deck

/-- The catalog of a file that is waited for, with its first flags set. -/
def awaitLoad (first : Nat) (path : String) : Attempt Catalog := do
  let c ← awaitCatalog first path
  seeded c

end Attempt

/-! ### What a file is as a source -/

/-- What comes of the deck of a file, by what is found under the path. -/
inductive FileOutcome (d : Disk) (path : String) : Except LoadError Deck → Prop
  | missing {fault : FileFault} (h : d.find path = .error fault) :
      FileOutcome d path (.error (.unreachable path fault))
  | directory {place : Place} (h : d.find path = .ok (place, .directory)) :
      FileOutcome d path (.error (.unreachable path .isADirectory))
  | notText {place : Place} {content : ByteArray} (h : d.find path = .ok (place, .file content))
      (hcontent : ∀ text : String, text.toUTF8 ≠ content) :
      FileOutcome d path (.error (.unreachable path .notText))
  | malformed {place : Place} {text : String} {fault : Json.Fault}
      (h : d.find path = .ok (place, .file text.toUTF8)) (htext : Deck.ofText text = .error fault) :
      FileOutcome d path (.error (.malformed path fault))
  | deck {place : Place} {text : String} {deck : Deck}
      (h : d.find path = .ok (place, .file text.toUTF8)) (htext : Deck.ofText text = .ok deck) :
      FileOutcome d path (.ok deck)

/-- The source is the file, or else its text under the path as a name. -/
inductive Holds (d : Disk) (path : String) : Source → Prop
  | file : Holds d path (.file path)
  | text {place : Place} {text : String} (h : d.find path = .ok (place, .file text.toUTF8)) :
      Holds d path (.text path text)

theorem exists_fileOutcome (d : Disk) (path : String) : ∃ outcome, FileOutcome d path outcome := by
  cases hfind : d.find path with
  | error fault => exact ⟨_, .missing hfind⟩
  | ok found =>
    obtain ⟨place, item⟩ := found
    cases item with
    | directory => exact ⟨_, .directory hfind⟩
    | file content =>
      by_cases hcontent : ∃ text : String, text.toUTF8 = content
      · obtain ⟨text, rfl⟩ := hcontent
        cases htext : Deck.ofText text with
        | error fault => exact ⟨_, .malformed hfind htext⟩
        | ok deck => exact ⟨_, .deck hfind htext⟩
      · exact ⟨_, .notText hfind fun text htext => hcontent ⟨text, htext⟩⟩

theorem FileOutcome.deck_eq {outcome : Except LoadError Deck} (h : FileOutcome d path outcome) :
    (Source.file path).deck d = outcome := by
  rw [Source.deck]
  cases h with
  | missing hfind => simp only [Disk.readText, hfind]
  | directory hfind => simp only [Disk.readText, hfind]
  | @notText place content hfind hcontent =>
    have hnone : String.fromUTF8? content = none := by
      rw [Option.eq_none_iff_forall_ne_some]
      intro text htext
      exact hcontent text (Disk.fromUTF8?_eq_some_iff.1 htext)
    simp only [Disk.readText, hfind, hnone]
  | malformed hfind htext => simp only [Disk.readText_of_find hfind, parse, htext]
  | deck hfind htext => simp only [Disk.readText_of_find hfind, parse, htext]

theorem fileOutcome_iff {outcome : Except LoadError Deck} :
    FileOutcome d path outcome ↔ outcome = (Source.file path).deck d := by
  constructor
  · intro h
    exact h.deck_eq.symm
  · rintro rfl
    obtain ⟨outcome, h⟩ := exists_fileOutcome d path
    rwa [h.deck_eq]

theorem Holds.deck_eq {s : Source} (h : s.Holds d path) : s.deck d = (Source.file path).deck d := by
  cases h with
  | file => rfl
  | text hfind => simp only [deck, Disk.readText_of_find hfind]

/-! ### What is left by the ways -/

/-- What is left when a catalog has been built of a deck, if there is one: a record in the log. -/
def Live.built (live : Live) (first : Nat) :
    Except LoadError Deck → Except LoadError Catalog × Live
  | .error e => (.error e, live)
  | .ok deck =>
    let c := Catalog.ofDeck first deck
    (.ok c, { live with log := live.log ++ [.info ("loaded " ++ c.size.repr ++ " slides")] })

/-- What is left when the first flags have been set, too. -/
def Live.loaded (live : Live) (first : Nat) :
    Except LoadError Deck → Except LoadError Catalog × Live
  | .error e => (.error e, live)
  | .ok deck =>
    let c := Catalog.ofDeck first deck
    (.ok c, ⟨c.seed live.state, live.log ++ [.info ("loaded " ++ c.size.repr ++ " slides"),
      .info ("seeded " ++ c.seeds.length.repr ++ " visibility flags")]⟩)

/-- What is left of a state and a log by a load that answers with the next ones. -/
def Live.left (live : Live) :
    Except LoadError (Catalog × GameState × List LogRecord) → Except LoadError Catalog × Live
  | .error e => (.error e, live)
  | .ok (c, state, records) => (.ok c, ⟨state, live.log ++ records⟩)

theorem Live.left_load (live : Live) (first : Nat) (d : Disk) (s : Source) :
    live.left (s.load first d live.state) = live.loaded first (s.deck d) := by
  rw [load, catalog]
  cases s.deck d <;> rfl

namespace Attempt

variable (d path)

theorem on_readNow (live : Live) :
    (readNow d path).on d live = (.ok (d.readText path), live) := rfl

theorem on_readLater (live : Live) :
    (readLater path).on d live = (.ok (d.readText path), live) := rfl

theorem on_fileDeck {read : String → Attempt (Except FileFault String)} {live : Live}
    (h : (read path).on d live = (.ok (d.readText path), live)) :
    (fileDeck read path).on d live = ((Source.file path).deck d, live) := by
  rw [fileDeck, on_bind, h, deck]
  cases d.readText path with
  | error fault => rfl
  | ok json => exact on_liftExcept (parse path json) live

theorem on_slides (s : Source) (live : Live) : (slides d s).on d live = (s.deck d, live) := by
  cases s with
  | text origin json => exact on_liftExcept (parse origin json) live
  | file path => exact on_fileDeck d path (on_readNow d path live)

theorem on_awaitSlides (live : Live) :
    (awaitSlides path).on d live = ((Source.file path).deck d, live) :=
  on_fileDeck d path (on_readLater d path live)

variable {d}

theorem on_build_of (first : Nat) {a : Attempt Deck} {outcome : Except LoadError Deck}
    {live : Live} (h : a.on d live = (outcome, live)) :
    (a >>= build first).on d live = live.built first outcome := by
  rw [on_bind, h]
  cases outcome <;> rfl

theorem on_seeded (c : Catalog) (live : Live) :
    (seeded c).on d live = (.ok c, ⟨c.seed live.state,
      live.log ++ [.info ("seeded " ++ c.seeds.length.repr ++ " visibility flags")]⟩) := by
  have hrun : (seeded c).on d live = (.ok c, ⟨(c.sow live.state).1,
      live.log ++ [.info ("seeded " ++ (c.sow live.state).2.repr ++ " visibility flags")]⟩) := rfl
  rw [hrun, Catalog.sow_eq]

theorem on_seeded_of (first : Nat) {a : Attempt Catalog} {outcome : Except LoadError Deck}
    {live : Live} (h : a.on d live = live.built first outcome) :
    (a >>= seeded).on d live = live.loaded first outcome := by
  rw [on_bind, h]
  cases outcome with
  | error e => rfl
  | ok deck =>
    simp only [Live.built, on_seeded, Live.loaded, List.append_assoc, List.singleton_append]

theorem on_load (first : Nat) (s : Source) (live : Live) :
    (load first d s).on d live = live.loaded first (s.deck d) := by
  rw [load, on_bind, on_slides]
  cases s.deck d with
  | error e => rfl
  | ok deck =>
    have hbuild : (build first deck).on d live = live.built first (.ok deck) := rfl
    exact on_seeded_of first hbuild

end Attempt

/-! ### Sessions -/

/-- How a session begins, by what comes of the deck: on the first slide, with the first flags set
over nothing. -/
inductive Begins (first : Nat) (config : Config) :
    Except LoadError Deck → Except EngineError (Turn Unit) → Prop
  | fails (e : LoadError) : Begins first config (.error e) (.error (.load e))
  | empty {deck : Deck} (h : deck.keys = []) :
      Begins first config (.ok deck) (.error (.session (.catalog .emptyCatalog)))
  | opens {deck : Deck} {c : Catalog} {id : String} {rest : List String}
      (hc : c = .ofDeck first deck) (h : deck.keys = id :: rest) :
      Begins first config (.ok deck) (.ok {
        answer := ()
        session := ⟨c, c.seed .empty, { current := id }, config.nestedSkip⟩
        events := [.logged (.info ("loaded " ++ c.size.repr ++ " slides")),
          .logged (.info ("session opened on `" ++ id ++ "`"))] })

theorem begins_createSession (first : Nat) (d : Disk) (e : Engine) :
    Begins first e.config (e.source.deck d) (e.createSession first d) := by
  rw [Engine.createSession, Engine.loadCatalog, Source.catalog]
  cases e.source.deck d with
  | error fault => exact .fails fault
  | ok deck =>
    simp only [Engine.openSession, Session.fresh, Session.resume, Catalog.start, Catalog.ids_ofDeck]
    cases hkeys : deck.keys with
    | nil => exact .empty hkeys
    | cons id rest => exact .opens rfl hkeys

/-! ### All ways -/

/-- What comes of a file is settled by what is found under its path. Whether it is waited for or
read at once, as a file or as the text that is in it, the same deck or the same error comes of it,
and the same catalog, whatever the numbers of its instances. The first flags have been set, and
counted, if and only if a catalog has been made; an error leaves the state and the log as they were.
All this is what the load of a source answers, and a session begins with the first slide and the
first flags of the same catalog. -/
theorem loading_rules (d : Disk) (path : String) (live : Live) :
    let outcome := (Source.file path).deck d
    (∀ other, FileOutcome d path other ↔ other = outcome) ∧
    (Attempt.awaitSlides path).on d live = (outcome, live) ∧
    (∀ first,
      (Attempt.awaitCatalog first path).on d live = live.built first outcome ∧
      (Attempt.awaitLoad first path).on d live = live.loaded first outcome) ∧
    (∀ s : Source, s.Holds d path →
      (Attempt.slides d s).on d live = (outcome, live) ∧
      ∀ first,
        (Attempt.catalog first d s).on d live = live.built first outcome ∧
        (Attempt.load first d s).on d live = live.loaded first outcome ∧
        live.left (s.load first d live.state) = live.loaded first outcome ∧
        ∀ config, Begins first config outcome (Engine.createSession ⟨s, config⟩ first d)) ∧
    (∀ e, outcome = .error e → ∀ first,
      live.built first outcome = (.error e, live) ∧ live.loaded first outcome = (.error e, live)) ∧
    (∀ deck, outcome = .ok deck → ∀ first, ∃ c, c.ids = deck.keys ∧
      (live.built first outcome).1 = .ok c ∧ (live.built first outcome).2.state = live.state ∧
      (live.loaded first outcome).1 = .ok c ∧
      (live.loaded first outcome).2.state = (Catalog.ofDeck 0 deck).seed live.state) := by
  intro outcome
  refine ⟨fun other => fileOutcome_iff, Attempt.on_awaitSlides d path live, ?_, ?_, ?_, ?_⟩
  · intro first
    have hcatalog : (Attempt.awaitCatalog first path).on d live = live.built first outcome :=
      Attempt.on_build_of first (Attempt.on_awaitSlides d path live)
    exact ⟨hcatalog, Attempt.on_seeded_of first hcatalog⟩
  · intro s hs
    have hdeck : s.deck d = outcome := hs.deck_eq
    have hslides := Attempt.on_slides d s live
    rw [← hdeck]
    refine ⟨hslides, ?_⟩
    intro first
    exact ⟨Attempt.on_build_of first hslides, Attempt.on_load first s live,
      live.left_load first d s, fun config => begins_createSession first d ⟨s, config⟩⟩
  · intro e he first
    rw [he]
    exact ⟨rfl, rfl⟩
  · intro deck hdeck first
    rw [hdeck]
    refine ⟨.ofDeck first deck, Catalog.ids_ofDeck first deck, rfl, rfl, rfl, ?_⟩
    exact Catalog.seed_congr (by rw [Catalog.entries_ofDeck, Catalog.entries_ofDeck]) live.state

/-- A disk with slides, and with slides that have been torn off. -/
def shelf (slides : String) : Disk where
  items := [(["slides.json"], .file slides.toUTF8), (["torn.json"], .file "\x7b".toUTF8)]
  here := []

/-- The text of the slides does as well as their file, over a state in which the door is open. What
is torn off or not there leaves the door as it is. -/
theorem loading_rules_shelf :
    let deck : Deck :=
      .ofList [("hall", { buttons := .ofList [("door", { visible := some false })] })]
    let d := shelf deck.toValue.compact
    let live : Live := ⟨GameState.empty.apply (.setFlag "hall.door" true), []⟩
    let left := (Attempt.load 4 d (.text "slides.json" deck.toValue.compact)).on d live
    (Attempt.awaitLoad 4 "slides.json").on d live = left ∧
      left.1.map Catalog.ids = .ok ["hall"] ∧ left.2.state.flag? "hall.door" = some false ∧
      (Attempt.load 4 d (.file "torn.json")).on d live =
        (.error (.malformed "torn.json" .truncated), live) ∧
      (Attempt.awaitLoad 4 "gone.json").on d live =
        (.error (.unreachable "gone.json" .notFound), live) := by
  intro deck d live left
  have hslides : d.find "slides.json" =
      .ok (["slides.json"], .file deck.toValue.compact.toUTF8) := by
    cbv
  have htorn : d.find "torn.json" = .ok (["torn.json"], .file "\x7b".toUTF8) := by cbv
  have hgone : d.find "gone.json" = .error .notFound := by cbv
  have hcut : Deck.ofText "\x7b" = .error .truncated := by cbv
  obtain ⟨hcases, -, hwaiting, hsources, -, hloaded⟩ := loading_rules d "slides.json" live
  have hread := (hcases _).1 (.deck hslides (Deck.ofText_toValue deck))
  obtain ⟨c, hids, -, -, hc, hstate⟩ := hloaded deck hread.symm 4
  have hleft : left = _ := ((hsources _ (.text hslides)).2 4).2.1
  refine ⟨(hwaiting 4).2.trans hleft.symm, ?_, ?_, ?_, ?_⟩
  · rw [hleft, hc, Except.map, hids]
    decide
  · rw [hleft, hstate]
    decide
  · obtain ⟨hcases, -, -, hsources, herror, -⟩ := loading_rules d "torn.json" live
    have htorn := (hcases _).1 (.malformed htorn hcut)
    exact ((hsources _ .file).2 4).2.1.trans (herror _ htorn.symm 4).2
  · obtain ⟨hcases, -, hwaiting, -, herror, -⟩ := loading_rules d "gone.json" live
    have hgone := (hcases _).1 (.missing hgone)
    exact (hwaiting 4).2.trans (herror _ hgone.symm 4).2

end Source

end SlideGraph
