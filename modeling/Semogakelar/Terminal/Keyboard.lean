import Mathlib.Data.Nat.Notation
import Mathlib.Logic.Function.Basic
import Mathlib.Tactic.SplitIfs

/-! The keyboard driver with its screen position, and the loop of the shell that reads a line from it. -/

namespace Semogakelar.Terminal

open Function

def backspace : UInt8 := 0x08
def tab : UInt8 := 0x09
def newline : UInt8 := 0x0A
def blank : UInt8 := 0x20

/-- The rows of `keyboard_scancode_1_to_ascii_map` that hold characters. -/
def scancodeMap : List UInt8 :=
  [0x00, 0x1B, 0x31, 0x32, 0x33, 0x34, 0x35, 0x36, 0x37, 0x38, 0x39, 0x30, 0x2D, 0x3D, 0x08, 0x09,
   0x71, 0x77, 0x65, 0x72, 0x74, 0x79, 0x75, 0x69, 0x6F, 0x70, 0x5B, 0x5D, 0x0A, 0x00, 0x61, 0x73,
   0x64, 0x66, 0x67, 0x68, 0x6A, 0x6B, 0x6C, 0x3B, 0x27, 0x60, 0x00, 0x5C, 0x7A, 0x78, 0x63, 0x76,
   0x62, 0x6E, 0x6D, 0x2C, 0x2E, 0x2F, 0x00, 0x2A, 0x00, 0x20, 0x00, 0x00, 0x00, 0x00, 0x00, 0x00,
   0x00, 0x00, 0x00, 0x00, 0x00, 0x00, 0x00, 0x00, 0x00, 0x00, 0x2D, 0x00, 0x00, 0x00, 0x2B, 0x00]

def keyboardScancode1ToAsciiMap (scancode : UInt8) : UInt8 := scancodeMap.getD scancode.toNat 0

/-- The driver state, the variables of the screen position, and the cells of the screen as the framebuffer has
them. -/
structure Console where
  keyboardInputOn : Bool
  keyboardInput : UInt8
  rowNow : UInt8
  colNow : UInt8
  l : UInt8
  screen : ℕ → UInt16
  cursor : UInt16

namespace Console

def position (row col : UInt8) : ℕ := row.toNat * 80 + col.toNat

/-- A character is signed, so one from 0x80 on also sets the bits of the colours. -/
def framebufferWrite (row col c fg bg : UInt8) (t : Console) : Console :=
  let attrib : UInt16 := (bg.toUInt16 <<< 4) ||| (fg.toUInt16 &&& 0x0F)
  let extended : UInt16 := if c < 0x80 then c.toUInt16 else 0xFF00 ||| c.toUInt16
  { t with screen := update t.screen (position row col) (extended ||| (attrib <<< 8)) }

def framebufferSetCursor (row col : UInt8) (t : Console) : Console :=
  { t with cursor := UInt16.ofNat (position row col) }

def putchar (s : UInt8) (color : UInt8) (t : Console) : Console :=
  let t :=
    if s = newline then { t with rowNow := t.rowNow + 1, colNow := 0, l := 0 }
    else if s ≠ 0 then { t.framebufferWrite t.rowNow t.colNow s color 0 with colNow := t.colNow + 1 }
    else t
  (t.framebufferWrite t.rowNow t.colNow 0 0xF 0).framebufferSetCursor t.rowNow t.colNow

def puts (s : List UInt8) (color : UInt8) (t : Console) : Console := s.foldl (fun t c => t.putchar c color) t

def framebufferClear (t : Console) : Console :=
  (List.range 25).foldl (fun t i => (List.range 80).foldl
    (fun t j => t.framebufferWrite (UInt8.ofNat i) (UInt8.ofNat j) 0 0x7 0) t) t

def resetWritePosition (t : Console) : Console := { t with rowNow := 0, colNow := 0 }

def keyboardStateActivate (t : Console) : Console := { t with keyboardInputOn := true, keyboardInput := 0 }

def keyboardStateDeactivate (t : Console) : Console := { t with keyboardInputOn := false }

def getKeyboardBuffer (t : Console) : UInt8 × Console := (t.keyboardInput, { t with keyboardInput := 0 })

def erase (t : Console) : Console :=
  { (t.framebufferWrite t.rowNow t.colNow blank 0 0).framebufferSetCursor t.rowNow t.colNow with
    colNow := t.colNow - 1
    l := t.l - 1 }

def indent (t : Console) : Console :=
  { t.framebufferWrite t.rowNow t.colNow blank 0 0 with
    colNow := t.colNow + 1
    l := t.l + 1 }

def edit (asciiChar : UInt8) (t : Console) : Console :=
  if asciiChar = newline then (t.putchar asciiChar 0).keyboardStateDeactivate
  else if asciiChar = backspace then if 0 < t.l then t.erase else t
  else if asciiChar = tab then t.indent.indent
  else if asciiChar ≠ 0 ∧ t.l < 255 then { t.putchar asciiChar 0xF with l := t.l + 1 }
  else t

def keyboardIsr (scancode : UInt8) (t : Console) : Console :=
  if scancode &&& 0x80 ≠ 0 then t
  else if t.keyboardInputOn then
    let asciiChar := keyboardScancode1ToAsciiMap scancode
    ({ t with keyboardInput := asciiChar }.edit asciiChar).putchar 0 0xF
  else t

end Console

structure LineInput where
  buf : ℕ → UInt8
  idx : ℕ
  returned : Bool

structure Dialogue where
  console : Console
  input : LineInput

def LineInput.take (c : UInt8) (g : LineInput) : LineInput :=
  let buf := update g.buf g.idx c
  if c = backspace then
    if 0 < g.idx then { g with buf := update (update buf g.idx 0) (g.idx - 1) 0, idx := g.idx - 1 }
    else { g with buf := update buf g.idx 0 }
  else if c = newline then { g with buf := update buf g.idx 0, returned := true }
  else if c = tab then { g with buf := update (update buf g.idx blank) (g.idx + 1) blank, idx := g.idx + 2 }
  else if c ≠ 0 then { g with buf := buf, idx := g.idx + 1 }
  else { g with buf := buf }

inductive Event
  | key (scancode : UInt8)
  | poll

namespace Dialogue

def step (t : Dialogue) : Event → Dialogue
  | .key scancode => { t with console := t.console.keyboardIsr scancode }
  | .poll =>
    if t.input.returned then t
    else
      let (c, console) := t.console.getKeyboardBuffer
      ⟨console, t.input.take c⟩

def run (t : Dialogue) (events : List Event) : Dialogue := events.foldl step t

end Dialogue

end Semogakelar.Terminal
