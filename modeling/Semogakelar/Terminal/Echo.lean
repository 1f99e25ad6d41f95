import Mathlib.Data.List.Induction
import Mathlib.Data.List.Infix
import Semogakelar.Terminal.Mailbox

/-! The line on the screen and the line in the buffer of `get_input`, as two images of one text. -/

namespace Semogakelar.Terminal

open Function

def typeOnto (text : List UInt8) (c : UInt8) : List UInt8 :=
  if c = backspace then text.dropLast
  else if c = tab then text ++ [blank, blank]
  else if c = 0 then text
  else text ++ [c]

def Console.glyph (t : Console) (row col : UInt8) : UInt8 := (t.screen (Console.position row col)).toUInt8

structure Console.Shows (row col : UInt8) (text : List UInt8) (t : Console) : Prop where
  counted : t.l.toNat = text.length
  rowNow : t.rowNow = row
  colNow : t.colNow = col + UInt8.ofNat text.length
  cells : ∀ j (h : j < text.length), t.glyph row (col + UInt8.ofNat j) = text[j]

structure LineInput.Holds (text : List UInt8) (g : LineInput) : Prop where
  counted : g.idx = text.length
  stored : ∀ j (h : j < text.length), g.buf j = text[j]

variable {row col c : UInt8} {text : List UInt8}

/-! ### The screen -/

namespace Console

variable {t : Console}

lemma toUInt8_shiftLeft (x : UInt16) : (x <<< 8).toUInt8 = 0 := by
  apply UInt8.toNat_inj.mp
  rw [UInt16.toNat_toUInt8, UInt16.toNat_shiftLeft]
  simp [Nat.shiftLeft_eq]

lemma glyph_framebufferWrite (t : Console) (row col col' c fg bg : UInt8) :
    (t.framebufferWrite row col c fg bg).glyph row col' = if col' = col then c else t.glyph row col' := by
  have hposition : position row col' = position row col ↔ col' = col := by
    rw [position, position, Nat.add_left_cancel_iff, UInt8.toNat_inj]
  unfold glyph framebufferWrite
  by_cases h : col' = col
  · rw [if_pos h, h]
    simp only [update_self]
    have hsign : (0xFF00 : UInt16).toUInt8 = 0 := rfl
    split_ifs
    · simp [toUInt8_shiftLeft]
    · rw [UInt16.toUInt8_or, UInt16.toUInt8_or, toUInt8_shiftLeft, hsign]
      simp
  · rw [if_neg h]
    simp only [update_of_ne (fun he => h (hposition.mp he))]

lemma column_ne {j n : ℕ} (hj : j < n) (hn : n ≤ 255) : col + UInt8.ofNat j ≠ col + UInt8.ofNat n := by
  intro he
  have hnat := congrArg UInt8.toNat (UInt8.add_right_inj col |>.mp he)
  rw [UInt8.toNat_ofNat', UInt8.toNat_ofNat'] at hnat
  omega

lemma Shows.overwrite (h : Shows row col text t) (hline : text.length ≤ 255) (c fg bg : UInt8) :
    Shows row col text (t.framebufferWrite t.rowNow t.colNow c fg bg) := by
  refine ⟨h.counted, h.rowNow, h.colNow, fun j hj => ?_⟩
  rw [h.rowNow, h.colNow, glyph_framebufferWrite, if_neg (column_ne hj hline), h.cells j hj]

lemma Shows.advance (h : Shows row col text t) (hline : text.length < 255) (c fg bg : UInt8) :
    Shows row col (text ++ [c])
      { t.framebufferWrite t.rowNow t.colNow c fg bg with colNow := t.colNow + 1, l := t.l + 1 } := by
  have hcounted := h.counted
  refine ⟨?_, h.rowNow, ?_, fun j hj => ?_⟩
  · have hone : (1 : UInt8).toNat = 1 := rfl
    rw [UInt8.toNat_add, hone, List.length_append, List.length_singleton, h.counted]
    omega
  · have hone : UInt8.ofNat 1 = 1 := rfl
    rw [List.length_append, List.length_singleton, UInt8.ofNat_add, hone, ← UInt8.add_assoc, ← h.colNow]
  · change (t.framebufferWrite t.rowNow t.colNow c fg bg).glyph row _ = _
    rw [List.length_append, List.length_singleton] at hj
    rw [h.rowNow, h.colNow, glyph_framebufferWrite]
    obtain hlt | rfl := Nat.lt_succ_iff_lt_or_eq.mp hj
    · rw [if_neg (column_ne hlt (by omega)), h.cells j hlt, List.getElem_append_left hlt]
    · rw [if_pos rfl, List.getElem_concat_length rfl]

lemma Shows.retreat (h : Shows row col text t) (hline : text ≠ []) :
    Shows row col text.dropLast { t with colNow := t.colNow - 1, l := t.l - 1 } := by
  have hcounted := h.counted
  have hpos := List.length_pos_iff.mpr hline
  have hone : (1 : UInt8).toNat = 1 := rfl
  refine ⟨?_, h.rowNow, ?_, fun j hj => ?_⟩
  · have hle : (1 : UInt8) ≤ t.l := UInt8.le_iff_toNat_le.mpr (by omega)
    rw [UInt8.toNat_sub_of_le _ _ hle, List.length_dropLast, hone, h.counted]
  · have hcolumn : UInt8.ofNat 1 = 1 := rfl
    change t.colNow - 1 = _
    rw [List.length_dropLast, UInt8.ofNat_sub hpos, hcolumn, h.colNow, UInt8.sub_eq_add_neg, UInt8.sub_eq_add_neg,
      UInt8.add_assoc]
  · rw [List.length_dropLast] at hj
    rw [List.getElem_dropLast, ← h.cells j (by omega)]
    rfl

lemma Shows.cursor (h : Shows row col text t) (hline : text.length ≤ 255) : Shows row col text
    (t.putchar 0 0xF) := by
  have hempty : (0 : UInt8) ≠ newline := by decide
  have hshows := h.overwrite hline 0 0xF 0
  rw [putchar, if_neg hempty, if_neg (not_not.mpr rfl)]
  exact ⟨hshows.counted, hshows.rowNow, hshows.colNow, hshows.cells⟩

lemma Shows.l_pos (h : Shows row col text t) : 0 < t.l ↔ text ≠ [] := by
  rw [UInt8.lt_iff_toNat_lt, h.counted, ← List.length_pos_iff]
  rfl

lemma Shows.edit (h : Shows row col text t) (hc : c ≠ newline) (hline : text.length ≤ 255)
    (hnext : (typeOnto text c).length ≤ 255) : Shows row col (typeOnto text c) (t.edit c) := by
  unfold typeOnto at hnext ⊢
  rw [Console.edit, if_neg hc]
  by_cases hback : c = backspace
  · simp only [if_pos hback] at hnext ⊢
    by_cases hempty : text = []
    · rw [if_neg (fun hl => h.l_pos.mp hl hempty)]
      subst hempty
      exact h
    · rw [if_pos (h.l_pos.mpr hempty)]
      have hshows := (h.overwrite hline blank 0 0).retreat hempty
      exact ⟨hshows.counted, hshows.rowNow, hshows.colNow, hshows.cells⟩
  simp only [if_neg hback] at hnext ⊢
  by_cases htab : c = tab
  · simp only [if_pos htab, List.length_append, List.length_cons, List.length_nil] at hnext ⊢
    have hfirst := h.advance (by omega) blank 0 0
    have hsecond := hfirst.advance (by rw [List.length_append, List.length_singleton]; omega) blank 0 0
    rw [List.append_assoc] at hsecond
    exact hsecond
  simp only [if_neg htab] at hnext ⊢
  by_cases hnull : c = 0
  · have hnone : ¬ (c ≠ 0 ∧ t.l < 255) := fun hc => hc.1 hnull
    rw [if_neg hnone, if_pos hnull]
    exact h
  simp only [if_neg hnull, List.length_append, List.length_singleton] at hnext ⊢
  have hlimit : t.l < 255 := by
    rw [UInt8.lt_iff_toNat_lt, h.counted]
    exact hnext
  have hshows := h.advance hnext c 0xF 0
  have hbehind := hshows.overwrite (by rw [List.length_append, List.length_singleton]; exact hnext) 0 0xF 0
  rw [if_pos ⟨hnull, hlimit⟩, putchar, if_neg hc, if_pos hnull]
  exact ⟨hbehind.counted, hbehind.rowNow, hbehind.colNow, hbehind.cells⟩

end Console

/-! ### The buffer -/

namespace LineInput

variable {g : LineInput}

lemma Holds.overwrite (h : g.Holds text) (v : UInt8) : Holds text { g with buf := update g.buf g.idx v } := by
  refine ⟨h.counted, fun j hj => ?_⟩
  have hcounted := h.counted
  exact (update_of_ne (by omega) _ _).trans (h.stored j hj)

lemma Holds.push (h : g.Holds text) (v : UInt8) :
    Holds (text ++ [v]) { g with buf := update g.buf g.idx v, idx := g.idx + 1 } := by
  refine ⟨by rw [List.length_append, List.length_singleton, h.counted], fun j hj => ?_⟩
  rw [List.length_append, List.length_singleton] at hj
  obtain hlt | rfl := Nat.lt_succ_iff_lt_or_eq.mp hj
  · rw [List.getElem_append_left hlt]
    exact (h.overwrite v).stored j hlt
  · rw [List.getElem_concat_length rfl, h.counted]
    exact update_self _ _ _

lemma Holds.pop (h : g.Holds text) : Holds text.dropLast
    { g with buf := update g.buf (g.idx - 1) 0, idx := g.idx - 1 } := by
  have hcounted := h.counted
  refine ⟨by rw [List.length_dropLast, hcounted], fun j hj => ?_⟩
  rw [List.length_dropLast] at hj
  rw [List.getElem_dropLast, ← h.stored j (by omega)]
  exact update_of_ne (by omega) _ _

lemma Holds.take (h : g.Holds text) (hc : c ≠ newline) : (g.take c).Holds (typeOnto text c) := by
  rw [LineInput.take, typeOnto]
  by_cases hback : c = backspace
  · simp only [if_pos hback]
    by_cases hidx : 0 < g.idx
    · rw [if_pos hidx]
      exact ((h.overwrite c).overwrite 0).pop
    · have hempty : text = [] := List.length_eq_zero_iff.mp (by rw [← h.counted]; omega)
      rw [if_neg hidx]
      subst hempty
      exact (h.overwrite c).overwrite 0
  simp only [if_neg hback, if_neg hc]
  by_cases htab : c = tab
  · have hpush := ((h.overwrite c).push blank).push blank
    rw [List.append_assoc] at hpush
    simp only [if_pos htab]
    exact hpush
  simp only [if_neg htab]
  by_cases hnull : c = 0
  · rw [if_neg (not_not.mpr hnull), if_pos hnull]
    exact h.overwrite c
  · rw [if_pos hnull, if_neg hnull]
    exact h.push c

end LineInput

/-! ### A key and its polls -/

def Dialogue.turn (t : Dialogue) (key : UInt8 × ℕ) : Dialogue :=
  t.run (.key key.1 :: .poll :: List.replicate key.2 .poll)

def Dialogue.typed (t : Dialogue) (keys : List (UInt8 × ℕ)) : Dialogue := keys.foldl turn t

def textOf (keys : List (UInt8 × ℕ)) : List UInt8 := keys.foldl (fun text key => typeOnto text (decode key.1)) []

structure EmptyLine (t : Dialogue) : Prop where
  active : t.console.keyboardInputOn = true
  mail : t.console.keyboardInput = 0
  l : t.console.l = 0
  idx : t.input.idx = 0
  reading : t.input.returned = false

structure Reading (text : List UInt8) (t : Dialogue) : Prop where
  listening : Listening t
  mail : t.console.keyboardInput = 0
  holds : t.input.Holds text

structure Finished (t : Dialogue) : Prop where
  off : t.console.keyboardInputOn = false
  returned : t.input.returned = true
  l : t.console.l = 0

variable {t : Dialogue} {scancode : UInt8} {key : UInt8 × ℕ} {keys : List (UInt8 × ℕ)} {n : ℕ}

lemma EmptyLine.reading_nil (h : EmptyLine t) : Reading [] t := by
  have hempty : (0 : UInt8) ≠ newline := by decide
  exact ⟨⟨h.active, h.reading, h.mail ▸ hempty⟩, h.mail, h.idx, fun j hj => (Nat.not_lt_zero j hj).elim⟩

lemma EmptyLine.shows_nil (h : EmptyLine t) : t.console.Shows t.console.rowNow t.console.colNow [] := by
  refine ⟨by rw [h.l]; rfl, rfl, ?_, fun j hj => (Nat.not_lt_zero j hj).elim⟩
  exact (UInt8.add_zero _).symm

lemma Reading.polls (h : Reading text t) : Reading text (t.run (List.replicate n .poll)) ∧
    (t.run (List.replicate n .poll)).console = t.console := by
  induction n generalizing t with
  | zero => exact ⟨h, rfl⟩
  | succ n ih =>
    have hconsole : (t.step .poll).console = t.console := by
      rw [step_poll h.listening.reading, ← h.mail]
    have hnext : Reading text (t.step .poll) := by
      obtain ⟨hlistening, hmail⟩ := h.listening.poll
      refine ⟨hlistening, hmail, ?_⟩
      have htake := h.holds.take (c := 0) (by decide)
      rw [step_poll h.listening.reading, h.mail]
      exact htake
    obtain ⟨hreading, hsame⟩ := ih hnext
    exact ⟨hreading, hsame.trans hconsole⟩

lemma Reading.key_poll (h : Reading text t) (scancode : UInt8) : (t.step (.key scancode)).step .poll =
    ⟨{ t.console.keyboardIsr scancode with keyboardInput := 0 }, t.input.take (decode scancode)⟩ := by
  have hmail : (t.console.keyboardIsr scancode).keyboardInput = decode scancode := by
    by_cases hmake : IsMake scancode
    · rw [Console.keyboardIsr_make hmake h.listening.active, (Console.putchar_mail _ _ _).1,
        (Console.edit_mail _ _).1]
    · rw [Console.keyboardIsr_break hmake, h.mail, decode, if_neg hmake]
  rw [step_poll (by exact h.listening.reading), ← hmail]
  rfl

lemma Reading.turn (h : Reading text t) (key : UInt8 × ℕ) (hc : decode key.1 ≠ newline) :
    Reading (typeOnto text (decode key.1)) (t.turn key) ∧
      (t.turn key).console = { t.console.keyboardIsr key.1 with keyboardInput := 0 } := by
  obtain ⟨hkey, -⟩ := h.listening.key hc
  obtain ⟨hlistening, hmail⟩ := hkey.poll
  have hnext : Reading (typeOnto text (decode key.1)) ((t.step (.key key.1)).step .poll) := by
    refine ⟨hlistening, hmail, ?_⟩
    rw [h.key_poll]
    exact h.holds.take hc
  obtain ⟨hreading, hconsole⟩ := hnext.polls (n := key.2)
  refine ⟨hreading, hconsole.trans ?_⟩
  rw [h.key_poll]

lemma Reading.shows (h : Reading text t) (hshows : t.console.Shows row col text) (hc : decode key.1 ≠ newline)
    (hline : text.length ≤ 255) (hnext : (typeOnto text (decode key.1)).length ≤ 255) :
    (t.turn key).console.Shows row col (typeOnto text (decode key.1)) := by
  rw [(h.turn key hc).2]
  have hisr : (t.console.keyboardIsr key.1).Shows row col (typeOnto text (decode key.1)) := by
    by_cases hmake : IsMake key.1
    · have hmailed : Console.Shows row col text { t.console with keyboardInput := decode key.1 } :=
        ⟨hshows.counted, hshows.rowNow, hshows.colNow, hshows.cells⟩
      rw [Console.keyboardIsr_make hmake h.listening.active]
      exact (hmailed.edit hc hline hnext).cursor hnext
    · have hnone : decode key.1 = 0 := if_neg hmake
      rw [Console.keyboardIsr_break hmake, hnone]
      exact hshows
  exact ⟨hisr.counted, hisr.rowNow, hisr.colNow, hisr.cells⟩

lemma Finished.polls (h : Finished t) : t.run (List.replicate n .poll) = t := by
  have hpoll : t.step .poll = t := by rw [Dialogue.step, if_pos h.returned]
  induction n with
  | zero => rfl
  | succ n ih =>
    rw [Dialogue.run, List.replicate_succ, List.foldl_cons, hpoll]
    exact ih

lemma Finished.turn (h : Finished t) : t.turn key = t := by
  have hkey : t.step (.key key.1) = t := by
    rw [Dialogue.step, Console.keyboardIsr, h.off]
    simp
  rw [Dialogue.turn, Dialogue.run, List.foldl_cons, hkey]
  exact h.polls (n := key.2 + 1)

lemma Reading.enter (h : Reading text t) (hc : decode key.1 = newline) : Finished (t.turn key) := by
  have hmake : IsMake key.1 := by
    by_contra hbreak
    rw [decode, if_neg hbreak] at hc
    exact absurd hc (by decide)
  have hisr := Console.keyboardIsr_make hmake h.listening.active
  have hfinished : Finished ((t.step (.key key.1)).step .poll) := by
    rw [h.key_poll, hisr, hc]
    exact ⟨rfl, rfl, rfl⟩
  rw [Dialogue.turn, Dialogue.run, List.foldl_cons, List.foldl_cons]
  change Finished (Dialogue.run _ (List.replicate key.2 .poll))
  rw [hfinished.polls]
  exact hfinished

/-! ### Every sequence of keys -/

structure InStep (start t : Dialogue) : Prop where
  counted : t.input.returned = false → t.console.l.toNat = t.input.idx
  echoed : t.input.returned = false → ∀ j < t.input.idx,
    t.console.glyph start.console.rowNow (start.console.colNow + UInt8.ofNat j) = t.input.buf j
  ended : t.input.returned = true → t.console.l = 0

def ErasesOne (t t' : Console) : Prop := t'.colNow = t.colNow - 1 ∧ t'.glyph t'.rowNow t'.colNow = 0

def RemovesOne (g g' : LineInput) : Prop := g'.idx + 1 = g.idx

def NoEnter (keys : List (UInt8 × ℕ)) : Prop := ∀ key ∈ keys, decode key.1 ≠ newline

def WithinLimit (keys : List (UInt8 × ℕ)) : Prop := ∀ front, front <+: keys → NoEnter front →
    (textOf front).length ≤ 255

variable {start : Dialogue}

lemma typed_concat (t : Dialogue) (keys : List (UInt8 × ℕ)) (key : UInt8 × ℕ) :
    t.typed (keys ++ [key]) = (t.typed keys).turn key := by
  rw [Dialogue.typed, List.foldl_append]
  rfl

lemma textOf_concat (keys : List (UInt8 × ℕ)) (key : UInt8 × ℕ) :
    textOf (keys ++ [key]) = typeOnto (textOf keys) (decode key.1) := by
  rw [textOf, List.foldl_append]
  rfl

lemma NoEnter.front (h : NoEnter (keys ++ [key])) : NoEnter keys := fun k hk => h k (List.mem_append_left _ hk)

lemma NoEnter.last (h : NoEnter (keys ++ [key])) : decode key.1 ≠ newline :=
  h key (List.mem_append_right _ (by simp))

lemma WithinLimit.front {front : List (UInt8 × ℕ)} (h : WithinLimit keys) (hfront : front <+: keys) :
    WithinLimit front := fun front' hfront' => h front' (hfront'.trans hfront)

lemma EmptyLine.reading_typed (h : EmptyLine start) (hkeys : NoEnter keys) :
    Reading (textOf keys) (start.typed keys) := by
  induction keys using List.reverseRecOn with
  | nil => exact h.reading_nil
  | append_singleton keys key ih =>
    rw [typed_concat, textOf_concat]
    exact ((ih hkeys.front).turn key hkeys.last).1

lemma EmptyLine.shows_typed (h : EmptyLine start) (hlimit : WithinLimit keys) (hkeys : NoEnter keys) :
    (start.typed keys).console.Shows start.console.rowNow start.console.colNow (textOf keys) := by
  induction keys using List.reverseRecOn with
  | nil => exact h.shows_nil
  | append_singleton keys key ih =>
    have hfront : WithinLimit keys := hlimit.front (List.prefix_append _ _)
    have hbefore := hfront keys (List.prefix_refl _) hkeys.front
    have hafter := hlimit _ (List.prefix_refl _) hkeys
    rw [textOf_concat] at hafter ⊢
    rw [typed_concat]
    exact (h.reading_typed hkeys.front).shows (ih hfront hkeys.front) hkeys.last hbefore hafter

lemma EmptyLine.finished_typed (h : EmptyLine start) (hkeys : ¬ NoEnter keys) : Finished (start.typed keys) := by
  induction keys using List.reverseRecOn with
  | nil => exact (hkeys fun k hk => (List.not_mem_nil hk).elim).elim
  | append_singleton keys key ih =>
    rw [typed_concat]
    by_cases hfront : NoEnter keys
    · have hlast : decode key.1 = newline := by
        by_contra hne
        refine hkeys fun k hk => ?_
        obtain hk | hk := List.mem_append.mp hk
        · exact hfront k hk
        · rw [List.mem_singleton.mp hk]
          exact hne
      exact (h.reading_typed hfront).enter hlast
    · have hfinished := ih hfront
      rw [hfinished.turn]
      exact hfinished

lemma EmptyLine.inStep (h : EmptyLine start) (hlimit : WithinLimit keys) : InStep start (start.typed keys) := by
  by_cases hkeys : NoEnter keys
  · have hholds := (h.reading_typed hkeys).holds
    have hshows := h.shows_typed hlimit hkeys
    have hreading := (h.reading_typed hkeys).listening.reading
    refine ⟨fun _ => hshows.counted.trans hholds.counted.symm, fun _ j hj => ?_, fun hreturned => ?_⟩
    · have hj' : j < (textOf keys).length := hholds.counted ▸ hj
      rw [hshows.cells j hj', hholds.stored j hj']
    · rw [hreading] at hreturned
      exact absurd hreturned (by decide)
  · have hfinished := h.finished_typed hkeys
    have hrunning : (start.typed keys).input.returned ≠ false := by
      rw [hfinished.returned]
      decide
    exact ⟨fun hreading => (hrunning hreading).elim, fun hreading => (hrunning hreading).elim,
      fun _ => hfinished.l⟩

lemma Console.glyph_putchar (s color : UInt8) (t : Console) :
    (t.putchar s color).glyph (t.putchar s color).rowNow (t.putchar s color).colNow = 0 := by
  rw [Console.putchar]
  exact (Console.glyph_framebufferWrite ..).trans (if_pos rfl)

lemma Console.glyph_keyboardIsr {t : Console} (hmake : IsMake scancode) (hactive : t.keyboardInputOn = true) :
    (t.keyboardIsr scancode).glyph (t.keyboardIsr scancode).rowNow (t.keyboardIsr scancode).colNow = 0 := by
  rw [Console.keyboardIsr_make hmake hactive]
  exact Console.glyph_putchar ..

lemma column_pred (col : UInt8) : col ≠ col - 1 := by
  intro he
  have hone : col - 0 = col - 1 := by rw [UInt8.sub_zero]; exact he
  exact absurd (UInt8.sub_right_inj col |>.mp hone) (by decide)

lemma Reading.erases_iff (h : Reading text t) (hshows : t.console.Shows row col text) (hline : text.length ≤ 255)
    (hback : decode key.1 = backspace) :
    ErasesOne t.console (t.turn key).console ↔ RemovesOne t.input (t.turn key).input := by
  have hc : decode key.1 ≠ newline := by rw [hback]; decide
  have htext : typeOnto text (decode key.1) = text.dropLast := by rw [hback]; rfl
  have hmake : IsMake key.1 := by
    by_contra hbreak
    rw [decode, if_neg hbreak] at hback
    exact absurd hback (by decide)
  have hshort : (typeOnto text (decode key.1)).length ≤ 255 := by
    rw [htext, List.length_dropLast]
    omega
  have hnext : (t.turn key).console.Shows row col _ := h.shows hshows hc hline hshort
  obtain ⟨hreading, hconsole⟩ := h.turn key hc
  have hholds := hreading.holds
  rw [htext] at hnext hholds
  have hidx := hholds.counted
  have hidx' := h.holds.counted
  rw [List.length_dropLast] at hidx
  by_cases hempty : text = []
  · subst hempty
    refine iff_of_false (fun herase => ?_) (fun hremove => ?_)
    · have hcol := herase.1
      rw [hnext.colNow, hshows.colNow] at hcol
      exact column_pred _ hcol
    · rw [RemovesOne, hidx, hidx'] at hremove
      simp at hremove
  · have hpos := List.length_pos_iff.mpr hempty
    refine iff_of_true ⟨?_, ?_⟩ (by rw [RemovesOne]; omega)
    · have hone : UInt8.ofNat 1 = 1 := rfl
      rw [hnext.colNow, hshows.colNow, List.length_dropLast, UInt8.ofNat_sub hpos, hone, UInt8.sub_eq_add_neg,
        UInt8.sub_eq_add_neg, UInt8.add_assoc]
    · rw [hconsole]
      exact Console.glyph_keyboardIsr hmake h.listening.active

theorem echo_in_step_iff (start : Dialogue) (hstart : EmptyLine start) (keys : List (UInt8 × ℕ)) :
    ((∀ front, front <+: keys → InStep start (start.typed front)) ∧
      ∀ front key, front ++ [key] <+: keys → decode key.1 = backspace →
        (ErasesOne (start.typed front).console (start.typed (front ++ [key])).console ↔
          RemovesOne (start.typed front).input (start.typed (front ++ [key])).input)) ↔
    WithinLimit keys := by
  constructor
  · rintro ⟨hsteps, -⟩ front hfront hkeys
    have hreading := hstart.reading_typed hkeys
    have hcounted := (hsteps front hfront).counted hreading.listening.reading
    have hidx := hreading.holds.counted
    have hlimit := (start.typed front).console.l.toNat_lt
    omega
  · intro hlimit
    refine ⟨fun front hfront => hstart.inStep (hlimit.front hfront), fun front key hfront hback => ?_⟩
    have hbefore : WithinLimit front := hlimit.front ((List.prefix_append _ _).trans hfront)
    rw [typed_concat]
    by_cases hkeys : NoEnter front
    · have hline := hbefore front (List.prefix_refl _) hkeys
      exact (hstart.reading_typed hkeys).erases_iff (hstart.shows_typed hbefore hkeys) hline hback
    · have hfinished := hstart.finished_typed hkeys
      rw [hfinished.turn]
      refine iff_of_false (fun herase => column_pred _ herase.1) (fun hremove => ?_)
      rw [RemovesOne] at hremove
      omega

lemma idle_emptyLine : EmptyLine idle := ⟨rfl, rfl, rfl, rfl, rfl⟩

theorem echo_in_step_erased : InStep idle (idle.typed [(0x1E, 0), (0x0F, 2), (0x0E, 0), (0x1C, 0)]) := by
  have hall : ∀ front ∈ List.inits [((0x1E : UInt8), 0), (0x0F, 2), (0x0E, 0), (0x1C, 0)],
      (textOf front).length ≤ 255 := by decide
  have hlimit : WithinLimit [(0x1E, 0), (0x0F, 2), (0x0E, 0), (0x1C, 0)] :=
    fun front hfront _ => hall front ((List.mem_inits _ _).mpr hfront)
  exact ((echo_in_step_iff idle idle_emptyLine _).mpr hlimit).1 _ (List.prefix_refl _)

/-- After 256 letters the driver has counted 255. -/
theorem echo_falls_behind : ¬ ∀ start, EmptyLine start → ∀ keys, InStep start (start.typed keys) := by
  intro h
  have hkeys : NoEnter (List.replicate 256 (0x1E, 0)) := by
    intro key hkey
    rw [List.eq_of_mem_replicate hkey]
    decide
  have hlength : (textOf (List.replicate 256 (0x1E, 0))).length = 256 := by decide +kernel
  have hreading := idle_emptyLine.reading_typed hkeys
  have hcounted := (h idle idle_emptyLine (List.replicate 256 (0x1E, 0))).counted hreading.listening.reading
  have hidx := hreading.holds.counted
  have hlimit := (idle.typed (List.replicate 256 (0x1E, 0))).console.l.toNat_lt
  omega

end Semogakelar.Terminal
