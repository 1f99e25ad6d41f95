import Semogakelar.Terminal.Keyboard

/-! The one character that the keyboard interrupt leaves for the shell, and when none is lost on the way. -/

namespace Semogakelar.Terminal

def IsMake (scancode : UInt8) : Prop := scancode &&& 0x80 = 0

instance (scancode : UInt8) : Decidable (IsMake scancode) := inferInstanceAs (Decidable (_ = _))

/-- The character that `keyboard_isr` takes from a scancode, NUL for none. -/
def decode (scancode : UInt8) : UInt8 := if IsMake scancode then keyboardScancode1ToAsciiMap scancode else 0

def single (c : UInt8) : List UInt8 := if c = 0 then [] else [c]

def decoded : List Event → List UInt8
  | [] => []
  | .key scancode :: events => single (decode scancode) ++ decoded events
  | .poll :: events => decoded events

def received (t : Dialogue) : List Event → List UInt8
  | [] => []
  | .key scancode :: events => received (t.step (.key scancode)) events
  | .poll :: events =>
    (if t.input.returned then [] else single t.console.getKeyboardBuffer.1) ++ received (t.step .poll) events

def EachPolled (events : List Event) : Prop :=
  ∀ front a between b rest, events = front ++ .key a :: between ++ .key b :: rest → decode a ≠ 0 → IsMake b →
    .poll ∈ between

structure Listening (t : Dialogue) : Prop where
  active : t.console.keyboardInputOn = true
  reading : t.input.returned = false
  line : t.console.keyboardInput ≠ newline

variable {t : Dialogue} {scancode : UInt8} {c : UInt8} {events : List Event}

/-! ### One event -/

namespace Console

variable {t : Console}

lemma putchar_mail (s color : UInt8) (t : Console) : (t.putchar s color).keyboardInput = t.keyboardInput ∧
    (t.putchar s color).keyboardInputOn = t.keyboardInputOn := by
  unfold putchar
  split_ifs <;> exact ⟨rfl, rfl⟩

lemma edit_mail (c : UInt8) (t : Console) : (t.edit c).keyboardInput = t.keyboardInput ∧
    (c ≠ newline → (t.edit c).keyboardInputOn = t.keyboardInputOn) := by
  unfold edit
  split_ifs with h₁
  · exact ⟨(putchar_mail _ _ _).1, fun h => (h h₁).elim⟩
  · exact ⟨rfl, fun _ => rfl⟩
  · exact ⟨rfl, fun _ => rfl⟩
  · exact ⟨rfl, fun _ => rfl⟩
  · exact ⟨(putchar_mail _ _ _).1, fun _ => (putchar_mail _ _ _).2⟩
  · exact ⟨rfl, fun _ => rfl⟩

lemma keyboardIsr_break (h : ¬ IsMake scancode) : t.keyboardIsr scancode = t := if_pos h

lemma keyboardIsr_make (h : IsMake scancode) (hon : t.keyboardInputOn = true) : t.keyboardIsr scancode =
    ({ t with keyboardInput := decode scancode }.edit (decode scancode)).putchar 0 0xF := by
  have hmake : ¬ (scancode &&& 0x80 ≠ 0) := not_not.mpr h
  rw [keyboardIsr, if_neg hmake, if_pos hon, decode, if_pos h]

end Console

lemma Listening.key (h : Listening t) (hc : decode scancode ≠ newline) : Listening (t.step (.key scancode)) ∧
    (t.step (.key scancode)).console.keyboardInput =
      if IsMake scancode then decode scancode else t.console.keyboardInput := by
  have hstep : (t.step (.key scancode)).console = t.console.keyboardIsr scancode := rfl
  by_cases hmake : IsMake scancode
  · have hmail : (t.step (.key scancode)).console.keyboardInput = decode scancode := by
      rw [hstep, Console.keyboardIsr_make hmake h.active, (Console.putchar_mail _ _ _).1,
        (Console.edit_mail _ _).1]
    refine ⟨⟨?_, h.reading, hmail ▸ hc⟩, by rw [if_pos hmake, hmail]⟩
    rw [hstep, Console.keyboardIsr_make hmake h.active, (Console.putchar_mail _ _ _).2,
      (Console.edit_mail _ _).2 hc]
    exact h.active
  · have hsame : t.step (.key scancode) = t := by
      rw [Dialogue.step, Console.keyboardIsr_break hmake]
    rw [hsame, if_neg hmake]
    exact ⟨h, rfl⟩

lemma take_returned {g : LineInput} (hc : c ≠ newline) : (g.take c).returned = g.returned := by
  unfold LineInput.take
  split_ifs <;> rfl

lemma step_poll (h : t.input.returned = false) :
    t.step .poll = ⟨{ t.console with keyboardInput := 0 }, t.input.take t.console.keyboardInput⟩ := by
  rw [Dialogue.step, if_neg (by rw [h]; decide)]
  rfl

lemma Listening.poll (h : Listening t) : Listening (t.step .poll) ∧ (t.step .poll).console.keyboardInput = 0 := by
  rw [step_poll h.reading]
  have hempty : (0 : UInt8) ≠ newline := by decide
  exact ⟨⟨h.active, (take_returned h.line).trans h.reading, hempty⟩, rfl⟩

/-! ### Every interleaving -/

/-- No key is pressed while a character waits; `pending` is the one that waits at the start. -/
def KeepsAll : UInt8 → List Event → Prop
  | _, [] => True
  | pending, .key scancode :: events =>
    if IsMake scancode then pending = 0 ∧ KeepsAll (decode scancode) events else KeepsAll pending events
  | _, .poll :: events => KeepsAll 0 events

lemma received_spec (ht : Listening t) (hevents : ∀ s, .key s ∈ events → decode s ≠ newline) :
    (received t (events ++ [.poll])).length ≤ (single t.console.keyboardInput ++ decoded events).length ∧
    (received t (events ++ [.poll]) = single t.console.keyboardInput ++ decoded events ↔
      KeepsAll t.console.keyboardInput events) := by
  induction events generalizing t with
  | nil =>
    have hr : received t ([] ++ [.poll]) = single t.console.keyboardInput := by
      simp [received, ht.reading, Console.getKeyboardBuffer]
    rw [hr, decoded, List.append_nil]
    exact ⟨Nat.le_refl _, iff_of_true rfl trivial⟩
  | cons event events ih =>
    have hrest : ∀ s, .key s ∈ events → decode s ≠ newline := fun s hs => hevents s (List.mem_cons_of_mem _ hs)
    cases event with
    | poll =>
      obtain ⟨hl, hmail⟩ := ht.poll
      have hih := ih hl hrest
      rw [hmail] at hih
      have hr : received t (.poll :: events ++ [.poll]) =
          single t.console.keyboardInput ++ received (t.step .poll) (events ++ [.poll]) := by
        rw [List.cons_append, received, ht.reading]
        rfl
      rw [hr, decoded, List.append_right_inj, List.length_append, List.length_append]
      exact ⟨Nat.add_le_add_left hih.1 _, hih.2⟩
    | key scancode =>
      obtain ⟨hl, hmail⟩ := ht.key (hevents scancode List.mem_cons_self)
      have hih := ih hl hrest
      rw [hmail] at hih
      have hr : received t (.key scancode :: events ++ [.poll]) =
          received (t.step (.key scancode)) (events ++ [.poll]) := rfl
      rw [hr, decoded, KeepsAll]
      by_cases hmake : IsMake scancode
      · rw [if_pos hmake] at hih ⊢
        by_cases hpending : t.console.keyboardInput = 0
        · rw [hpending]
          exact ⟨hih.1, hih.2.trans (by simp)⟩
        · have hone : (single t.console.keyboardInput).length = 1 := by simp [single, hpending]
          refine ⟨?_, iff_of_false (fun he => ?_) fun h => hpending h.1⟩
          · rw [List.length_append, hone]
            omega
          · have hlen := congrArg List.length he
            rw [List.length_append, hone] at hlen
            omega
      · have hnone : decode scancode = 0 := if_neg hmake
        rw [if_neg hmake] at hih ⊢
        rw [hnone]
        exact hih

def PollsFirst (events : List Event) : Prop :=
  ∀ between b rest, events = between ++ .key b :: rest → IsMake b → .poll ∈ between

lemma pollsFirst_poll : PollsFirst (.poll :: events) := by
  intro between b rest he hb
  cases between with
  | nil => simp at he
  | cons event between =>
    obtain ⟨rfl, -⟩ := List.cons.inj he
    exact List.mem_cons_self

lemma pollsFirst_key : PollsFirst (.key scancode :: events) ↔ ¬ IsMake scancode ∧ PollsFirst events := by
  constructor
  · intro h
    refine ⟨fun hmake => List.not_mem_nil (h [] scancode events rfl hmake), fun between b rest he hb => ?_⟩
    have hmem := h (.key scancode :: between) b rest (by rw [he]; rfl) hb
    simpa using hmem
  · rintro ⟨hbreak, h⟩ between b rest he hb
    cases between with
    | nil =>
      obtain ⟨hkey, -⟩ := List.cons.inj he
      exact (hbreak (Event.key.inj hkey ▸ hb)).elim
    | cons event between =>
      obtain ⟨-, htail⟩ := List.cons.inj he
      exact List.mem_cons_of_mem _ (h between b rest htail hb)

lemma eachPolled_poll : EachPolled (.poll :: events) ↔ EachPolled events := by
  constructor
  · intro h front a between b rest he
    exact h (.poll :: front) a between b rest (by rw [he]; rfl)
  · intro h front a between b rest he
    cases front with
    | nil => simp at he
    | cons event front =>
      obtain ⟨-, htail⟩ := List.cons.inj he
      exact h front a between b rest htail

lemma eachPolled_key : EachPolled (.key scancode :: events) ↔
    (decode scancode ≠ 0 → PollsFirst events) ∧ EachPolled events := by
  constructor
  · intro h
    refine ⟨fun hc between b rest he => ?_, fun front a between b rest he => ?_⟩
    · exact h [] scancode between b rest (by rw [he]; rfl) hc
    · exact h (.key scancode :: front) a between b rest (by rw [he]; rfl)
  · rintro ⟨hfirst, h⟩ front a between b rest he ha hb
    cases front with
    | nil =>
      obtain ⟨hkey, htail⟩ := List.cons.inj he
      exact hfirst (Event.key.inj hkey ▸ ha) between b rest htail hb
    | cons event front =>
      obtain ⟨-, htail⟩ := List.cons.inj he
      exact h front a between b rest htail ha hb

lemma keepsAll_iff : KeepsAll c events ↔ (c ≠ 0 → PollsFirst events) ∧ EachPolled events := by
  induction events generalizing c with
  | nil =>
    refine iff_of_true trivial ⟨fun _ between b rest he => ?_, fun front a between b rest he => ?_⟩
    · simp at he
    · simp at he
  | cons event events ih =>
    cases event with
    | poll =>
      have hfirst : PollsFirst (.poll :: events) := pollsFirst_poll
      rw [KeepsAll, ih, eachPolled_poll]
      simp [hfirst]
    | key scancode =>
      rw [KeepsAll, eachPolled_key, pollsFirst_key]
      split_ifs with hmake
      · rw [ih]
        simp [hmake]
      · have hnone : decode scancode = 0 := if_neg hmake
        rw [ih]
        simp [hmake, hnone]

theorem keystrokes_received_iff (console : Console) (input : LineInput) (hreading : input.returned = false)
    (events : List Event) (hevents : ∀ scancode, .key scancode ∈ events → decode scancode ≠ newline) :
    received ⟨console.keyboardStateActivate, input⟩ (events ++ [.poll]) = decoded events ↔ EachPolled events := by
  have hlistening : Listening ⟨console.keyboardStateActivate, input⟩ := by
    have hempty : (0 : UInt8) ≠ newline := by decide
    exact ⟨rfl, hreading, hempty⟩
  have hspec := (received_spec hlistening hevents).2
  have hkeeps : KeepsAll 0 events ↔ EachPolled events := by simp [keepsAll_iff]
  exact hspec.trans hkeeps

def idle : Dialogue := ⟨⟨true, 0, 0, 0, 0, fun _ => 0, 0⟩, ⟨fun _ => 0, 0, false⟩⟩

theorem keystrokes_received_alternating :
    received idle [.key 0x1E, .key 0x9E, .poll, .key 0x2A, .key 0x1F, .poll] = [0x61, 0x73] := by
  have hreceived := keystrokes_received_iff idle.console idle.input rfl
    [.key 0x1E, .key 0x9E, .poll, .key 0x2A, .key 0x1F] (by simp; decide)
  have hkeeps : KeepsAll 0 [.key 0x1E, .key 0x9E, .poll, .key 0x2A, .key 0x1F] := by
    simp only [KeepsAll]
    decide
  exact hreceived.mpr (keepsAll_iff.mp hkeeps).2

/-- Two keys between two polls: the second takes the place of the first. -/
theorem keystrokes_overwritten : ¬ ∀ (console : Console) (input : LineInput), input.returned = false →
    ∀ events, (∀ scancode, .key scancode ∈ events → decode scancode ≠ newline) →
      received ⟨console.keyboardStateActivate, input⟩ (events ++ [.poll]) = decoded events := by
  intro h
  have hboth := h idle.console idle.input rfl [.key 0x1E, .key 0x1F] (by simp; decide)
  revert hboth
  decide

end Semogakelar.Terminal
