import SlideGraph.Proofs.Config
import SlideGraph.Proofs.Json.Reader.Integer
import SlideGraph.Proofs.Pointer.Document

/-!
# Fields that hold integers

The delay in the settings is an integer of 64 bits without a sign, a position of the pointer one of
32 bits, and a button one of 8 bits without a sign. Each field takes the integers of its type and no
other number, whatever else is in the document.
-/

namespace SlideGraph

open Json

/-! ### The delay -/

namespace Config

theorem place_milliseconds? :
    IntegerPlace milliseconds? (fun d => d.toNat) 0 18446744073709551615 := by
  apply represents_uint64.place
  intro n w hw d
  have hsize : UInt64.size = 18446744073709551616 := rfl
  simp only [milliseconds?, Option.map_eq_some_iff, Tree.natural?_number hw (le_refl _)]
  constructor
  · rintro ⟨k, ⟨htoken, hk⟩, rfl⟩
    exact ⟨k, ⟨htoken, by omega, by omega⟩, by rw [Int.toNat_natCast]⟩
  · rintro ⟨i, ⟨htoken, hlo, hhi⟩, rfl⟩
    refine ⟨i.toNat, ⟨?_, by omega⟩, rfl⟩
    rwa [Int.toNat_of_nonneg hlo]

/-- The mode does not depend on the delay. -/
theorem fills_ofMembers? (before after : List (String × Tree)) :
    ∃ rest, Fills (fun v => ofMembers? (before ++ ("pointer_move_delay_ms", v) :: after)) rest
      milliseconds? Config.mk := by
  obtain ⟨only, honly⟩ : ∃ rest : Option Unit, Fills (fun v => field? "pointer_move_delay_ms"
      milliseconds? (before ++ ("pointer_move_delay_ms", v) :: after)) rest milliseconds?
        fun _ => some := fills_field?
  let mode := field? "nested_skip" (Tree.name? NestedSkip.ofName?) (before ++ after)
  refine ⟨only.bind fun _ => mode.map (·.getD .labelMatch), fun v => ?_⟩
  have hmode : field? "nested_skip" (Tree.name? NestedSkip.ofName?)
      (before ++ ("pointer_move_delay_ms", v) :: after) = mode := field?_gap_of_ne (by decide) v
  simp only [ofMembers?, hmode, honly v, Option.bind_eq_bind]
  cases only <;> cases mode <;> cases milliseconds? v <;> rfl

theorem fills_ofTree? {gap : Tree → Tree} (h : Tree.Gap names "pointer_move_delay_ms" gap) :
    ∃ rest, Fills (fun v => ofTree? (gap v)) rest milliseconds? Config.mk := by
  obtain ⟨members, hmembers⟩ := h.fills_members?
  exact hmembers.bind fun (before, after) _ => fills_ofMembers? before after

theorem takesInteger_delay {w : Token} {s s₀ : String}
    (h : Zeroed names "pointer_move_delay_ms" w s s₀) :
    TakesInteger ofText Config.mk (fun d => d.toNat) 0 0 18446744073709551615 w s s₀ :=
  h.takesInteger reads_reader place_milliseconds? rfl (fun _ _ heq => (Config.mk.inj heq).1)
    fun _ _ hgap _ => fills_ofTree? hgap

/-- The text of settings with any integer for the delay. -/
def textWith (mode : NestedSkip) (delay : Int) : String :=
  (Value.object [("nested_skip", .string mode.name),
    ("pointer_move_delay_ms", .int delay)]).compact

theorem zeroed_textWith (mode : NestedSkip) (delay : Int) :
    Zeroed names "pointer_move_delay_ms" (Number.ofInt delay).chars (textWith mode delay)
      (textWith mode 0) :=
  zeroed_compact [("nested_skip", .string mode.name)] []
    (by simp [Value.exists_written_string]) (by simp) names _ delay

end Config

/-! ### Positions and buttons -/

namespace PointerEvent

section

variable {gap : Value → Payload}

theorem fills_move_x (h : Payload.Gap ["x", "y"] "x" gap) :
    ∃ rest, Fills (fun x => ofPayload? .move (gap x)) rest coordinate? fun y x => .move x y := by
  refine h.fills_of_fits (fun _ hx => if_neg (by simp [hx])) fun hfits =>
    ⟨(gap .null).required 1 "y" coordinate?, fun x => ?_⟩
  have hx : (gap x).required 0 "x" coordinate? = coordinate? x :=
    h.required_eq (by decide) rfl (hfits x) _
  have hy : (gap x).required 1 "y" coordinate? = (gap .null).required 1 "y" coordinate? :=
    h.required_of_ne rfl (by decide) _ x .null
  simp only [ofPayload?, if_pos (hfits x), hx, hy]
  cases coordinate? x <;> cases (gap .null).required 1 "y" coordinate? <;> rfl

theorem fills_move_y (h : Payload.Gap ["x", "y"] "y" gap) :
    ∃ rest, Fills (fun y => ofPayload? .move (gap y)) rest coordinate? .move := by
  refine h.fills_of_fits (fun _ hy => if_neg (by simp [hy])) fun hfits =>
    ⟨(gap .null).required 0 "x" coordinate?, fun y => ?_⟩
  have hx : (gap y).required 0 "x" coordinate? = (gap .null).required 0 "x" coordinate? :=
    h.required_of_ne rfl (by decide) _ y .null
  have hy : (gap y).required 1 "y" coordinate? = coordinate? y :=
    h.required_eq (by decide) rfl (hfits y) _
  simp only [ofPayload?, if_pos (hfits y), hx, hy]
  cases coordinate? y <;> cases (gap .null).required 0 "x" coordinate? <;> rfl

theorem fills_button (h : Payload.Gap ["button"] "button" gap) (event : UInt8 → PointerEvent) :
    ∃ rest : Option Unit, Fills (fun x => (button? (gap x)).map event) rest
      (fun x => (x.intBetween? 0 255).map fun i => .ofNat i.toNat) fun _ => event := by
  refine h.fills_of_fits (fun _ hx => by simp [button?, hx]) fun hfits => ⟨some (), fun x => ?_⟩
  have hbutton : button? (gap x) = (x.intBetween? 0 255).map fun i => UInt8.ofNat i.toNat :=
    (if_pos (hfits x)).trans (h.required_eq (by decide) rfl (hfits x) _)
  simp only [hbutton, Option.bind_some]

end

section

variable {names : List String} {name shape : String} {k : Kind} {ρ β : Type} {f : Value → Option β}
  {put : ρ → β → PointerEvent} {value : β → Int} {zero : β} {lo hi : Int} {w : Token}
  {s s₀ : String}

/-- An event takes integers in a field if its payload takes them there. -/
theorem takesInteger_of_payload (h : Zeroed ("type" :: names) name w s s₀)
    (hshape : Tagged "type" shape s) (hk : Kind.ofName? shape = some k) (hname : "type" ≠ name)
    (hplace : IntegerPlace (fun v => (v.value? (Reader.maxDepth - 1)).bind f) value lo hi)
    (hzero : value zero = 0) (hput : ∀ q q', put q zero = put q' zero → q = q')
    (hfills : ∀ gap : Value → Payload, Payload.Gap names name gap →
      ∃ rest, Fills (fun x => ofPayload? k (gap x)) rest f put) :
    TakesInteger ofText put value zero lo hi w s s₀ := by
  refine h.takesInteger reads_reader hplace hzero hput fun gap v hgap hv => ?_
  obtain ⟨rest, hpayload, hrest⟩ := hgap.fillsPayload Kind.ofName? (Reader.maxDepth - 1) hname
  refine hrest.bind fun (k', payload) hr => ?_
  obtain ⟨hgap', hkind⟩ := hpayload _ hr
  -- the document has one tree, so the shape it is tagged with is that of the payload
  obtain ⟨v', hv', htag⟩ := hshape
  have hk' := hkind v
  rw [hv.unique hv', htag, Option.bind_some, hk] at hk'
  cases hk'
  exact hfills payload hgap'

theorem takesInteger_x (h : Zeroed ["type", "x", "y"] "x" w s s₀)
    (hshape : Tagged "type" "move" s) :
    TakesInteger ofText (fun y x => .move x y) Int32.toInt 0 (-2147483648) 2147483647 w s s₀ :=
  takesInteger_of_payload h hshape rfl (by decide)
    (represents_int32.place_between (by decide) (by decide) _) rfl
    (fun _ _ heq => (PointerEvent.move.inj heq).2) fun _ hgap => fills_move_x hgap

theorem takesInteger_y (h : Zeroed ["type", "x", "y"] "y" w s s₀)
    (hshape : Tagged "type" "move" s) :
    TakesInteger ofText .move Int32.toInt 0 (-2147483648) 2147483647 w s s₀ :=
  takesInteger_of_payload h hshape rfl (by decide)
    (represents_int32.place_between (by decide) (by decide) _) rfl
    (fun _ _ heq => (PointerEvent.move.inj heq).1) fun _ hgap => fills_move_y hgap

theorem takesInteger_button (h : Zeroed ["type", "button"] "button" w s s₀)
    (hshape : Tagged "type" shape s) (hk : Kind.ofName? shape = some k)
    {event : UInt8 → PointerEvent} (hevent : ∀ p, ofPayload? k p = (button? p).map event) :
    TakesInteger ofText (fun _ : Unit => event) (fun b => b.toNat) 0 0 255 w s s₀ :=
  takesInteger_of_payload h hshape hk (by decide)
    (represents_uint8.place_between (by decide) (by decide) _) rfl (fun _ _ _ => rfl)
    fun gap hgap => by simpa only [hevent] using fills_button hgap event

end

/-- The text of a move to any integers. -/
def moveText (x y : Int) : String :=
  (Value.object [("type", .string "move"), ("x", .int x), ("y", .int y)]).compact

/-- The text of an event with any integer for the button. -/
def buttonText (shape : String) (button : Int) : String :=
  (Value.object [("type", .string shape), ("button", .int button)]).compact

theorem zeroed_moveText_x (x y : Int) :
    Zeroed ["type", "x", "y"] "x" (Number.ofInt x).chars (moveText x y) (moveText 0 y) :=
  zeroed_compact [("type", .string "move")] [("y", .int y)]
    (by simp [Value.exists_written_string]) (by simp [Value.exists_written_int]) _ _ x

theorem zeroed_moveText_y (x y : Int) :
    Zeroed ["type", "x", "y"] "y" (Number.ofInt y).chars (moveText x y) (moveText x 0) :=
  zeroed_compact [("type", .string "move"), ("x", .int x)] []
    (by simp [Value.exists_written_string, Value.exists_written_int]) (by simp) _ _ y

theorem zeroed_buttonText (shape : String) (button : Int) :
    Zeroed ["type", "button"] "button" (Number.ofInt button).chars (buttonText shape button)
      (buttonText shape 0) :=
  zeroed_compact [("type", .string shape)] []
    (by simp [Value.exists_written_string]) (by simp) _ _ button

theorem tagged_moveText (x y : Int) : Tagged "type" "move" (moveText x y) :=
  tagged_compact (by simp) (by simp [Value.exists_written_int])

theorem tagged_buttonText (shape : String) (button : Int) :
    Tagged "type" shape (buttonText shape button) :=
  tagged_compact (by simp) (by simp [Value.exists_written_int])

end PointerEvent

/-! ### All fields -/

/-- Every field for integers takes just the integers of its type: the delay those of 64 bits without
a sign, a position those of 32 bits and a button those of 8 bits without one. The delay is so many
milliseconds. No number with a fraction or an exponent is an integer, and minus zero is none. -/
theorem integer_fields (w : Token) (s s₀ : String) :
    (Zeroed Config.names "pointer_move_delay_ms" w s s₀ →
      TakesInteger Config.ofText Config.mk (fun d => d.toNat) 0 0 18446744073709551615 w s s₀ ∧
        ∀ c, Config.ofText s = .ok c →
          ∃ k : Nat, IntegerToken w k ∧ c.delay.nanoseconds = k * 1000000) ∧
      (Tagged "type" "move" s →
        (Zeroed ["type", "x", "y"] "x" w s s₀ →
          TakesInteger PointerEvent.ofText (fun y x => .move x y) Int32.toInt 0
            (-2147483648) 2147483647 w s s₀) ∧
          (Zeroed ["type", "x", "y"] "y" w s s₀ →
            TakesInteger PointerEvent.ofText (fun x y => .move x y) Int32.toInt 0
              (-2147483648) 2147483647 w s s₀)) ∧
      (Zeroed ["type", "button"] "button" w s s₀ →
        (Tagged "type" "button_down" s →
          TakesInteger PointerEvent.ofText (fun _ : Unit => .buttonDown) (fun b => b.toNat) 0
            0 255 w s s₀) ∧
          (Tagged "type" "button_up" s →
            TakesInteger PointerEvent.ofText (fun _ : Unit => .buttonUp) (fun b => b.toNat) 0
              0 255 w s s₀)) ∧
      ∀ n : Numeral, n.Text w → ((∃! i, IntegerToken w i) ↔
        n.fraction = [] ∧ n.exponent = none ∧ w ≠ ['-', '0']) := by
  refine ⟨fun h => ?_, fun hmove => ?_, fun h => ?_, fun n hw => ?_⟩
  · have htakes := Config.takesInteger_delay h
    refine ⟨htakes, fun c hc => ?_⟩
    obtain ⟨mode, d, htoken, -, rfl⟩ := (htakes.read_iff c).1 hc
    exact ⟨d.toNat, htoken, rfl⟩
  · exact ⟨fun h => PointerEvent.takesInteger_x h hmove,
      fun h => PointerEvent.takesInteger_y h hmove⟩
  · exact ⟨fun hdown => PointerEvent.takesInteger_button h hdown rfl fun _ => rfl,
      fun hup => PointerEvent.takesInteger_button h hup rfl fun _ => rfl⟩
  · rw [← hw.exists_integerToken_iff]
    exact ⟨ExistsUnique.exists, fun ⟨i, hi⟩ => ⟨i, hi, fun j hj => hw.integerToken_unique hj hi⟩⟩

/-- At the bounds: the greatest delay, the least position and the greatest button are taken, and an
integer past a bound is not. A number with a point is no integer. -/
theorem integer_fields_bounds :
    ((∃ c, Config.ofText (Config.textWith .labelMatch 18446744073709551615) = .ok c) ∧
      ¬∃ c, Config.ofText (Config.textWith .labelMatch 18446744073709551616) = .ok c) ∧
      ((∃ e, PointerEvent.ofText (PointerEvent.moveText (-2147483648) 7) = .ok e) ∧
        ¬∃ e, PointerEvent.ofText (PointerEvent.moveText 7 2147483648) = .ok e) ∧
      ((∃ e, PointerEvent.ofText (PointerEvent.buttonText "button_down" 255) = .ok e) ∧
        ¬∃ e, PointerEvent.ofText (PointerEvent.buttonText "button_up" (-1)) = .ok e) ∧
      ¬∃! i, IntegerToken ['1', '.', '0'] i := by
  have hdelay (k : Int) := ((integer_fields _ _ _).1 (Config.zeroed_textWith .labelMatch k)).1
  have hx (x y : Int) := ((integer_fields _ _ _).2.1 (PointerEvent.tagged_moveText x y)).1
    (PointerEvent.zeroed_moveText_x x y)
  have hy (x y : Int) := ((integer_fields _ _ _).2.1 (PointerEvent.tagged_moveText x y)).2
    (PointerEvent.zeroed_moveText_y x y)
  have hdown (b : Int) := ((integer_fields _ _ _).2.2.1
    (PointerEvent.zeroed_buttonText "button_down" b)).1 (PointerEvent.tagged_buttonText _ b)
  have hup (b : Int) := ((integer_fields _ _ _).2.2.1
    (PointerEvent.zeroed_buttonText "button_up" b)).2 (PointerEvent.tagged_buttonText _ b)
  have hpoint : Numeral.Text ⟨false, ['1'], ['0'], none⟩ ['1', '.', '0'] :=
    ⟨Numeral.isDigits_toDigits 1, by decide, ['.', '0'], [],
      .some (Numeral.isDigits_toDigits 0), .none, rfl⟩
  refine ⟨⟨?_, ?_⟩, ⟨?_, ?_⟩, ⟨?_, ?_⟩, ?_⟩
  · rw [(hdelay _).exists_ok_iff ⟨_, Config.ofText_toValue ⟨.labelMatch, 0⟩⟩]
    decide
  · rw [(hdelay _).exists_ok_iff ⟨_, Config.ofText_toValue ⟨.labelMatch, 0⟩⟩]
    decide
  · rw [(hx _ 7).exists_ok_iff ⟨_, PointerEvent.ofText_toValue (.move 0 7)⟩]
    decide
  · rw [(hy 7 _).exists_ok_iff ⟨_, PointerEvent.ofText_toValue (.move 7 0)⟩]
    decide
  · rw [(hdown _).exists_ok_iff ⟨_, PointerEvent.ofText_toValue (.buttonDown 0)⟩]
    decide
  · rw [(hup _).exists_ok_iff ⟨_, PointerEvent.ofText_toValue (.buttonUp 0)⟩]
    decide
  · rw [(integer_fields _ "" "").2.2.2 _ hpoint]
    decide

end SlideGraph
