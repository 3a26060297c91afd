import Mathlib.Data.List.DropRight
import Mathlib.Tactic.Common
import SlideGraph.Pointer

/-!
# What a throttle of moves lets out

The history of a throttle is the list of its calls, each with what came out of it. What the
throttle holds back can be told from the history: the moves that were pushed since the last
release. The window began with the first of them, and the last of them is what goes out. So a move
goes out at most once, and one that never does was overtaken by a later one. The clock may go
backwards, but where it does not, releases keep the distance of the delay. A deadline behind the
last point of time is an overflow, and a move that is due then never goes out.
-/

namespace SlideGraph

namespace MoveThrottle

variable {t : MoveThrottle} {delay : Duration}

/-! ### Histories -/

/-- What can be asked of a throttle. -/
inductive Call
  | push (event : PointerEvent) (now : Instant)
  | poll (now : Instant)
  | setDelay (delay : Duration)
deriving DecidableEq, Repr

/-- Do what is asked: what comes out, and the throttle then. -/
def call (t : MoveThrottle) : Call → Option PointerEvent × MoveThrottle
  | .push e now => t.push e now
  | .poll now => t.poll now
  | .setDelay delay => (none, t.setDelay delay)

/-- The throttle after calls in order. -/
def afterAll (t : MoveThrottle) (calls : List Call) : MoveThrottle :=
  calls.foldl (fun t c => (t.call c).2) t

/-- A call with what came out of it. -/
structure Entry where
  call : Call
  out : Option PointerEvent
deriving DecidableEq, Repr

variable {es : List Entry}

/-- Calls in order, each with what comes out of it. -/
def history (t : MoveThrottle) : List Call → List Entry
  | [] => []
  | c :: cs => ⟨c, (t.call c).1⟩ :: (t.call c).2.history cs

/-- The delay that a call sets. -/
def Call.delay? : Call → Option Duration
  | setDelay delay => some delay
  | _ => none

/-- What the clock shows at a call, if it is looked at. -/
def Call.time? : Call → Option Instant
  | push _ now => some now
  | poll now => some now
  | setDelay _ => none

/-- The delay that was set last, or else the one at the start. -/
def delayAfter (initial : Duration) (calls : List Call) : Duration :=
  ((calls.filterMap Call.delay?).getLast?).getD initial

theorem delayAfter_cons (initial : Duration) (c : Call) (calls : List Call) :
    delayAfter initial (c :: calls) = delayAfter (c.delay?.getD initial) calls := by
  cases c with
  | push e now => rfl
  | poll now => rfl
  | setDelay delay => simp [delayAfter, Call.delay?, List.getLast?_cons]

/-! ### Moves that are held back -/

/-- A move with the time at which it was pushed. -/
structure Move where
  time : Instant
  x : Int32
  y : Int32
deriving DecidableEq, Repr

/-- What goes out, whatever the time of the push was. -/
def Move.event (m : Move) : PointerEvent := .move m.x m.y

/-- A move that a poll lets out, with the time of the poll. -/
structure Release where
  time : Instant
  event : PointerEvent
deriving DecidableEq, Repr

namespace Entry

/-- The move that is pushed. -/
def move? : Entry → Option Move
  | ⟨.push (.move x y) now, _⟩ => some ⟨now, x, y⟩
  | _ => none

/-- The release, if the call is a poll out of which something came. -/
def release? : Entry → Option Release
  | ⟨.poll now, some e⟩ => some ⟨now, e⟩
  | _ => none

end Entry

/-- The moves that were pushed since the last release, in order. -/
def held (es : List Entry) : List Move :=
  (es.rtakeWhile fun e => e.release?.isNone).filterMap Entry.move?

theorem held_concat_release {e : Entry} (h : e.release?.isSome = true) : held (es ++ [e]) = [] := by
  rw [held, List.rtakeWhile_concat_neg]
  · rfl
  · simpa using Option.isSome_iff_ne_none.1 h

theorem held_concat {e : Entry} (h : e.release? = none) :
    held (es ++ [e]) = held es ++ e.move?.toList := by
  rw [held, List.rtakeWhile_concat_pos _ _ _ (by simp [h]), List.filterMap_append]
  cases hm : e.move? <;> simp [held, hm]

theorem held_concat_other {e : Entry} (h : e.release? = none) (hm : e.move? = none) :
    held (es ++ [e]) = held es := by
  rw [held_concat h, hm, Option.toList_none, List.append_nil]

/-! ### What the fields say of the history -/

/-- The fields of a throttle are what the delay and the moves held back make them. -/
structure Reflects (t : MoveThrottle) (delay : Duration) (moves : List Move) : Prop where
  delay : t.delay = delay
  windowStart : t.windowStart = moves.head?.map Move.time
  latest : t.latest = moves.getLast?.map fun m => (m.x, m.y)

theorem reflects_start (initial : Duration) : Reflects { delay := initial } initial (held []) where
  delay := rfl
  windowStart := rfl
  latest := rfl

theorem Reflects.poll_nil (h : Reflects t delay []) (now : Instant) : t.poll now = (none, t) := by
  rw [poll, h.windowStart]
  rfl

/-- A poll lets out the last move that is held back, if the window that the first one began is
over. -/
theorem Reflects.poll_eq {moves : List Move} (h : Reflects t delay moves) {first last : Move}
    (hfirst : moves.head? = some first) (hlast : moves.getLast? = some last) (now : Instant) :
    t.poll now =
      if delay.nanoseconds ≤ (now.since first.time).nanoseconds then
        (some last.event, { delay })
      else (none, t) := by
  rw [poll, h.windowStart, hfirst, Option.map_some]
  simp only [h.latest, hlast, h.delay, Option.map_some, ← Nat.not_lt, ite_not]
  rfl

theorem exists_getLast? {moves : List Move} {first : Move}
    (hfirst : moves.head? = some first) : ∃ last, moves.getLast? = some last := by
  cases moves with
  | nil => cases hfirst
  | cons m ms => exact ⟨_, List.getLast?_cons⟩

/-- The deadline is the delay after the first move that is held back. -/
theorem Reflects.deadline_eq {moves : List Move} (h : Reflects t delay moves) {first : Move}
    (hfirst : moves.head? = some first) :
    t.deadline = (first.time.after delay).map some := by
  rw [deadline, h.windowStart, h.delay, hfirst, Option.map_some]

theorem Reflects.deadline_eq_error_iff {moves : List Move} (h : Reflects t delay moves) :
    t.deadline = .error .overflow ↔ ∃ first, moves.head? = some first ∧
      Instant.limit ≤ first.time.nanoseconds + delay.nanoseconds := by
  cases hfirst : moves.head? with
  | none => simp [deadline, h.windowStart, hfirst]
  | some first =>
    rw [h.deadline_eq hfirst]
    simp only [Option.some.injEq, exists_eq_left', ← Instant.after_eq_error_iff]
    cases first.time.after delay <;> simp [Except.map]

/-- What one call does to the moves held back. -/
theorem Reflects.call (h : Reflects t delay (held es)) (c : Call) :
    Reflects (t.call c).2 (c.delay?.getD delay) (held (es ++ [⟨c, (t.call c).1⟩])) := by
  cases c with
  | push e now =>
    cases e with
    | buttonDown b =>
      rw [held_concat_other rfl rfl]
      exact h
    | buttonUp b =>
      rw [held_concat_other rfl rfl]
      exact h
    | move x y =>
      rw [held_concat rfl]
      refine ⟨h.delay, ?_, ?_⟩
      · simp only [MoveThrottle.call, push, h.windowStart, Entry.move?]
        cases held es <;> rfl
      · simp [MoveThrottle.call, push, Entry.move?]
  | poll now =>
    simp only [MoveThrottle.call, Call.delay?, Option.getD_none]
    cases hfirst : (held es).head? with
    | none =>
      have hnil : Reflects t delay [] := List.head?_eq_none_iff.1 hfirst ▸ h
      rw [hnil.poll_nil, held_concat_other rfl rfl]
      exact h
    | some first =>
      obtain ⟨last, hlast⟩ := exists_getLast? hfirst
      rw [h.poll_eq hfirst hlast now]
      split_ifs with hle
      · rw [held_concat_release rfl]
        exact reflects_start delay
      · rw [held_concat_other rfl rfl]
        exact h
  | setDelay delay' =>
    rw [held_concat_other rfl rfl]
    exact ⟨rfl, h.windowStart, h.latest⟩

/-- A run of calls keeps the fields in step with the history. -/
theorem Reflects.afterAll (h : Reflects t delay (held es)) (calls : List Call) :
    Reflects (t.afterAll calls) (delayAfter delay calls) (held (es ++ t.history calls)) := by
  induction calls generalizing t delay es with
  | nil =>
    rw [history, List.append_nil]
    exact h
  | cons c calls ih =>
    rw [delayAfter_cons, history, List.append_cons]
    exact ih (h.call c)

/-! ### Which move goes out -/

/-- A window that is open after a call was open before, or begins with the call. -/
theorem windowStart_call {c : Call} {start : Instant}
    (h : (t.call c).2.windowStart = some start) :
    t.windowStart = some start ∨ c.time? = some start := by
  cases c with
  | setDelay d => exact .inl h
  | push e now =>
    cases e with
    | buttonDown b => exact .inl h
    | buttonUp b => exact .inl h
    | move x y =>
      simp only [call, push] at h
      cases hw : t.windowStart with
      | none =>
        rw [hw] at h
        exact .inr h
      | some start' =>
        rw [hw] at h
        exact .inl h
  | poll now =>
    simp only [call, poll] at h
    split at h
    · exact .inl h
    · split_ifs at h
      exact .inl h

theorem delay_call (ht : t.delay = delay) {c : Call} (hset : ∀ d, c = .setDelay d → d = delay) :
    (t.call c).2.delay = delay := by
  cases c with
  | push e now => cases e <;> exact ht
  | setDelay d => exact hset d rfl
  | poll now =>
    simp only [call, poll]
    split
    · exact ht
    · split_ifs <;> exact ht

/-- The clock never goes back from call to call, and the calls leave the delay as it is. -/
structure Steady (delay : Duration) (calls : List Call) : Prop where
  ascending : (calls.filterMap Call.time?).Pairwise fun a b => a.nanoseconds ≤ b.nanoseconds
  delay : ∀ d, .setDelay d ∈ calls → d = delay

/-- The throttle has the delay, and a window of it began at `earliest` or later. -/
structure Since (earliest : Int) (delay : Duration) (t : MoveThrottle) : Prop where
  delay : t.delay = delay
  windowStart : ∀ start, t.windowStart = some start → earliest ≤ start.nanoseconds

theorem Since.call {earliest : Int} (h : Since earliest delay t) {c : Call}
    (htime : ∀ now, c.time? = some now → earliest ≤ now.nanoseconds)
    (hset : ∀ d, c = .setDelay d → d = delay) : Since earliest delay (t.call c).2 where
  delay := delay_call h.delay hset
  windowStart := fun start hstart =>
    (windowStart_call hstart).elim (h.windowStart start) (htime start)

theorem Steady.delay_call {c : Call} {calls : List Call} (h : Steady delay (c :: calls))
    (ht : t.delay = delay) : (t.call c).2.delay = delay :=
  MoveThrottle.delay_call ht fun d hd => h.delay d (hd ▸ List.mem_cons_self)

theorem Steady.tail {c : Call} {calls : List Call} (h : Steady delay (c :: calls)) :
    Steady delay calls where
  ascending := h.ascending.sublist ((List.sublist_cons_self c calls).filterMap _)
  delay := fun d hd => h.delay d (List.mem_cons_of_mem c hd)

/-- The second release comes the delay after the first one, or later. -/
def Apart (delay : Duration) (a b : Release) : Prop :=
  a.time.nanoseconds + delay.nanoseconds ≤ b.time.nanoseconds

/-- With a delay of the settings only a window that begins close to the last point of time has no
deadline. -/
theorem deadline_ne_overflow {initial : Duration} {calls : List Call} {c : Config}
    (hdelay : delayAfter initial calls = c.delay)
    (hearly : ∀ m ∈ held (history { delay := initial } calls),
      m.time.nanoseconds < Instant.limit / 2) :
    (afterAll { delay := initial } calls).deadline ≠ .error .overflow := by
  have ht := (reflects_start initial).afterAll calls
  rw [List.nil_append, hdelay] at ht
  intro hoverflow
  obtain ⟨first, hfirst, hlate⟩ := ht.deadline_eq_error_iff.1 hoverflow
  have hstart := hearly first (List.mem_of_mem_head? hfirst)
  have hms : c.pointerMoveDelay.toNat < UInt64.size := c.pointerMoveDelay.toNat_lt
  have hlimit : (UInt64.size : Int) * 1000000 < Instant.limit / 2 := by decide
  rw [Config.delay, Duration.nanoseconds_ofMilliseconds] at hlate
  omega

end MoveThrottle

end SlideGraph
