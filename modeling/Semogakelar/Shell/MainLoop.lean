import Semogakelar.Shell.CommandLine
import Semogakelar.Shell.Kill
import Semogakelar.Shell.Moving
import Semogakelar.Terminal.Clock
import Semogakelar.Terminal.Echo

/-! The main loop of the shell, from the keys to the commands that they make up. -/

namespace Semogakelar.Shell

open Fat32 Process Terminal

/-! ### The loop -/

def ascii (s : String) : Str := s.toList.map fun c => UInt8.ofNat c.toNat

structure Text where
  str : Str
  color : UInt8

def put (console : Console) (text : Text) : Console := console.puts text.str text.color

def prompt (currentPath : Str) : List Text :=
  [⟨ascii "os2024-semogakelar", 0b1010⟩, ⟨ascii ":", 0b1000⟩, ⟨currentPath, 0b1001⟩, ⟨ascii "$ ", 0b1000⟩]

inductive Action
  | command (command : Command)
  | clear
  | ps
  | kill
  | clock
  | unknown
  | nothing

/-- `strlen(cmd) == size && memcmp(cmd, name, count) == 0`. -/
def Matches (cmd : Str) (size : ℕ) (name : String) (count : ℕ) : Prop :=
  cmd.length = size ∧ cmd.take count = (ascii name).take count

instance (cmd : Str) (size : ℕ) (name : String) (count : ℕ) : Decidable (Matches cmd size name count) :=
  inferInstanceAs (Decidable (_ ∧ _))

/-- For `exec` and `kill` only two characters are compared. -/
def actionOf (cmd : Str) : Action :=
  if Matches cmd 2 "cd" 2 then .command .cd
  else if Matches cmd 5 "clear" 5 then .clear
  else if Matches cmd 2 "ls" 2 then .command .ls
  else if Matches cmd 5 "mkdir" 5 then .command .mkdir
  else if Matches cmd 3 "cat" 3 then .command .cat
  else if Matches cmd 2 "cp" 2 then .command .cp
  else if Matches cmd 2 "rm" 2 then .command .rm
  else if Matches cmd 4 "find" 4 then .command .find
  else if Matches cmd 2 "mv" 2 then .command .mv
  else if Matches cmd 4 "exec" 2 then .command .exec
  else if Matches cmd 2 "ps" 2 then .ps
  else if Matches cmd 4 "kill" 2 then .kill
  else if Matches cmd 5 "clock" 5 then .clock
  else if cmd ≠ [] then .unknown
  else .nothing

/-- What a turn of the loop meets besides the line: what the commands depend on, what the command prints, the time
that the clock shows, and the kernel as the other processes have left it. -/
structure Setting where
  env : Env
  printed : List Text
  time : List UInt8
  kernel : Kernel

/-- It has no result when the command does not return to the shell. -/
def act (env : Env) (cmd : Str) (args : List Str) (w : World) : Option World :=
  match actionOf cmd with
  | .command command => run env command args w
  | .kill => (kill args w.kernel).bind fun r =>
    match r.2.1 with
    | .interrupted => some { w with kernel := r.2.2 }
    | .switched _ _ => none
  | _ => some w

def display (setting : Setting) (cmd : Str) (args : List Str) (console : Console) : Console :=
  match actionOf cmd with
  | .clear =>
    if args ≠ [] then [⟨ascii "error: too many arguments, expected 0 argument\n", lightRed⟩,
      ⟨ascii "Usage: clear\n", lightGrey⟩].foldl put console
    else console.framebufferClear.resetWritePosition
  | .unknown => [⟨ascii "error: no such command with the name '", lightRed⟩, ⟨cmd, lightRed⟩,
      ⟨ascii "'\n", lightRed⟩].foldl put console
  | .nothing => console
  | .clock => showAt 72 setting.time console
  | _ => setting.printed.foldl put console

structure Loop where
  world : World
  console : Console
  input : LineInput

namespace Loop

def dialogue (s : Loop) : Dialogue := ⟨s.console, s.input⟩

/-- The head of the loop: the arrays are cleared, the prompt is written, and the keyboard is switched on. -/
def begin (world : World) (console : Console) : Loop where
  world := world
  console := ((prompt world.session.currentPath).foldl put console).keyboardStateActivate
  input := ⟨fun _ => 0, 0, false⟩

def obeyLine (setting : Setting) (s : Loop) : Option Loop := do
  let bufInput ← textAt 2048 s.input.buf 0
  let (retVal, l) ← parseInput bufInput .cleared
  let world := { s.world with kernel := setting.kernel }
  if retVal ≠ 0 then
    return begin world (put s.console ⟨ascii "error: too many arguments\n", lightRed⟩)
  let cmd ← textAt 512 l.cmd 0
  let first ← textAt 1024 l.args 0
  let second ← textAt 1024 l.args 512
  let args := [first, second].take l.argsCount.toNat
  let world ← act setting.env cmd args world
  return begin world (display setting cmd args s.console)

inductive Event
  | terminal (event : Terminal.Event)
  | proceed (setting : Setting)

/-- The shell proceeds only behind `get_input`. -/
def step (s : Loop) : Event → Option Loop
  | .terminal event =>
    some { s with console := (s.dialogue.step event).console, input := (s.dialogue.step event).input }
  | .proceed setting => if s.input.returned then s.obeyLine setting else none

def run (s : Loop) (events : List Event) : Option Loop := events.foldlM step s

end Loop

/-! ### What the loop is for -/

def obey (setting : Setting) (line : Str) (w : World) : Option World :=
  match words line with
  | [] => some { w with kernel := setting.kernel }
  | cmd :: args =>
    if 3 ≤ args.length then some { w with kernel := setting.kernel }
    else act setting.env cmd args { w with kernel := setting.kernel }

structure Entry where
  before : List Terminal.Event
  enter : UInt8
  behind : List Terminal.Event
  setting : Setting

namespace Entry

def line (e : Entry) : Str := (decoded e.before).foldl typeOnto []

def events (e : Entry) : List Loop.Event :=
  (e.before ++ .key e.enter :: e.behind).map .terminal ++ [.proceed e.setting]

structure Typed (e : Entry) : Prop where
  single : ∀ scancode, .key scancode ∈ e.before → decode scancode ≠ newline
  polled : EachPolled (e.before ++ [.key e.enter])
  enter : decode e.enter = newline
  seen : .poll ∈ e.behind
  room : ∀ front, front <+: decoded e.before → (front.foldl typeOnto []).length ≤ 2047
  fits : ∀ word ∈ words e.line, word.length ≤ 511

end Entry

def obeyAll : List Entry → World → Option World
  | [], w => some w
  | e :: entries, w => (obey e.setting e.line w).bind (obeyAll entries)

variable {t : Dialogue} {text line : Str} {c key : UInt8} {events : List Terminal.Event} {s : Loop}
  {setting : Setting} {console : Console} {e : Entry}

/-! ### The line in the buffer -/

structure Edits (text : Str) (c : UInt8) (t : Dialogue) : Prop where
  listening : Listening t
  mail : t.console.keyboardInput = c
  holds : t.input.Holds text

structure Entered (text : Str) (t : Dialogue) : Prop where
  off : t.console.keyboardInputOn = false
  mail : t.console.keyboardInput = newline
  l : t.console.l = 0
  holds : t.input.Holds text
  reading : t.input.returned = false

structure Done (text : Str) (t : Dialogue) : Prop where
  finished : Finished t
  text : textAt 2048 t.input.buf 0 = some text

lemma typeOnto_zero (text : Str) : typeOnto text 0 = text := rfl

lemma foldl_single (text : Str) (c : UInt8) : (single c).foldl typeOnto text = typeOnto text c := by
  unfold single
  split_ifs with h
  · rw [h]
    rfl
  · rfl

lemma zero_not_mem_typeOnto (h : 0 ∉ text) (c : UInt8) : 0 ∉ typeOnto text c := by
  unfold typeOnto
  split_ifs with h₁ h₂ h₃
  · exact fun hmem => h (List.mem_of_mem_dropLast hmem)
  · simpa using ⟨h, by decide⟩
  · exact h
  · simpa using ⟨h, Ne.symm h₃⟩

lemma zero_not_mem_foldl (h : 0 ∉ text) (cs : Str) : 0 ∉ cs.foldl typeOnto text := by
  induction cs generalizing text with
  | nil => exact h
  | cons c cs ih => exact ih (zero_not_mem_typeOnto h c)

lemma Edits.run (h : Edits text c t) (hkeeps : KeepsAll c (events ++ [.key key])) (hmake : IsMake key)
    (hevents : ∀ scancode, .key scancode ∈ events → decode scancode ≠ newline) :
    Edits ((decoded events).foldl typeOnto (typeOnto text c)) 0 (t.run events) := by
  induction events generalizing t text c with
  | nil =>
    rw [List.nil_append, KeepsAll, if_pos hmake] at hkeeps
    obtain ⟨rfl, -⟩ := hkeeps
    exact h
  | cons event events ih =>
    have hrest : ∀ scancode, .key scancode ∈ events → decode scancode ≠ newline := fun scancode hs =>
      hevents scancode (List.mem_cons_of_mem _ hs)
    cases event with
    | poll =>
      obtain ⟨hlistening, hmail⟩ := h.listening.poll
      refine ih (c := 0) ⟨hlistening, hmail, ?_⟩ hkeeps hrest
      rw [step_poll h.listening.reading, ← h.mail]
      exact h.holds.take h.listening.line
    | key scancode =>
      obtain ⟨hlistening, hmail⟩ := h.listening.key (hevents scancode List.mem_cons_self)
      rw [List.cons_append, KeepsAll] at hkeeps
      rw [decoded, List.foldl_append, foldl_single]
      by_cases hpressed : IsMake scancode
      · rw [if_pos hpressed] at hkeeps hmail
        obtain ⟨rfl, hkeeps⟩ := hkeeps
        exact ih ⟨hlistening, hmail, h.holds⟩ hkeeps hrest
      · rw [if_neg hpressed] at hkeeps hmail
        have hnone : decode scancode = 0 := if_neg hpressed
        rw [hnone, typeOnto_zero]
        exact ih ⟨hlistening, hmail.trans h.mail, h.holds⟩ hkeeps hrest

lemma isMake_of_enter (h : decode key = newline) : IsMake key := by
  by_contra hbreak
  rw [decode, if_neg hbreak] at h
  exact absurd h (by decide)

lemma Edits.enter (h : Edits text 0 t) (henter : decode key = newline) : Entered text (t.step (.key key)) := by
  have hstep : (t.step (.key key)).console = t.console.keyboardIsr key := rfl
  have hisr := Console.keyboardIsr_make (isMake_of_enter henter) h.listening.active
  rw [henter] at hisr
  refine ⟨?_, ?_, ?_, h.holds, h.listening.reading⟩
  · rw [hstep, hisr]
    rfl
  · rw [hstep, hisr]
    rfl
  · rw [hstep, hisr]
    rfl

lemma step_key_off (h : t.console.keyboardInputOn = false) (scancode : UInt8) : t.step (.key scancode) = t := by
  rw [Dialogue.step, Console.keyboardIsr, h]
  simp

lemma Done.run (h : Done text t) : Done text (t.run events) := by
  have hstep : ∀ event, t.step event = t := by
    intro event
    cases event with
    | key scancode => exact step_key_off h.finished.off scancode
    | poll => rw [Dialogue.step, if_pos h.finished.returned]
  have hrun : t.run events = t := by
    induction events with
    | nil => rfl
    | cons event events ih =>
      rw [Dialogue.run, List.foldl_cons, hstep]
      exact ih
  rw [hrun]
  exact h

lemma Entered.poll (h : Entered text t) (hroom : text.length ≤ 2047) (hzero : 0 ∉ text) :
    Done text (t.step .poll) := by
  rw [step_poll h.reading, h.mail]
  have hline : newline ≠ backspace := by decide
  refine ⟨⟨h.off, ?_, h.l⟩, textAt_eq_some.mpr ⟨by omega, fun j hj => ?_, hzero⟩⟩
  · rw [LineInput.take, if_neg hline, if_pos rfl]
  · rw [LineInput.take, if_neg hline, if_pos rfl, Nat.zero_add]
    dsimp only
    obtain hlt | rfl := lt_or_eq_of_le hj
    · have hne : j ≠ t.input.idx := by
        rw [h.holds.counted]
        omega
      rw [Function.update_of_ne hne, Function.update_of_ne hne, h.holds.stored j hlt, List.getD_eq_getElem _ _ hlt]
    · rw [h.holds.counted, Function.update_self, List.getD_eq_default _ _ le_rfl]

lemma Entered.run (h : Entered text t) (hroom : text.length ≤ 2047) (hzero : 0 ∉ text) (hseen : .poll ∈ events) :
    Done text (t.run events) := by
  induction events with
  | nil => exact (List.not_mem_nil hseen).elim
  | cons event events ih =>
    cases event with
    | key scancode =>
      have hrest : Terminal.Event.poll ∈ events := by simpa using hseen
      rw [Dialogue.run, List.foldl_cons, step_key_off h.off]
      exact ih hrest
    | poll => exact (h.poll hroom hzero).run

lemma EmptyLine.done (h : EmptyLine t) (he : e.Typed) :
    Done e.line (t.run (e.before ++ .key e.enter :: e.behind)) := by
  have hedits : Edits [] 0 t := ⟨h.reading_nil.listening, h.mail, h.reading_nil.holds⟩
  have hkeeps : KeepsAll 0 (e.before ++ [.key e.enter]) := keepsAll_iff.mpr ⟨fun hne => (hne rfl).elim, he.polled⟩
  have hentered := (hedits.run hkeeps (isMake_of_enter he.enter) he.single).enter he.enter
  rw [Dialogue.run, List.foldl_append]
  exact hentered.run (he.room _ (List.prefix_refl _)) (zero_not_mem_foldl List.not_mem_nil _) he.seen

/-! ### The words of the line -/

lemma word_fits (hfits : ∀ w ∈ words line, w.length ≤ 511) : (word line).length ≤ 511 := by
  by_cases hnil : word line = []
  · rw [hnil]
    exact Nat.zero_le _
  · apply hfits
    rw [words_eq, if_neg hnil]
    exact List.mem_cons_self

lemma afterWord_fits (hfits : ∀ w ∈ words line, w.length ≤ 511) :
    ∀ w ∈ words (afterWord line), w.length ≤ 511 := by
  by_cases hnil : word line = []
  · rw [afterWord_of_nil hnil]
    exact fun w hw => (List.not_mem_nil hw).elim
  · intro w hw
    apply hfits
    rw [words_eq, if_neg hnil]
    exact List.mem_cons_of_mem _ hw

lemma parseInput_fits (hs : 0 ∉ line) (hfits : ∀ w ∈ words line, w.length ≤ 511) :
    ∃ l : CommandLine, parseInput line .cleared = some (if 4 ≤ (words line).length then -1 else 0, l) ∧
      textAt 512 l.cmd 0 = some (word line) ∧ textAt 1024 l.args 0 = some (word (afterWord line)) ∧
      textAt 1024 l.args 512 = some (word (afterWord (afterWord line))) ∧
      l.argsCount.toNat = min ((words line).length - 1) 2 := by
  have hcmd := word_fits hfits
  have hsecond := word_fits (afterWord_fits hfits)
  have hthird := word_fits (afterWord_fits (afterWord_fits hfits))
  have hs₁ := zero_not_mem_afterWord hs
  obtain ⟨hfirst, hlast⟩ := textAt_args (zero_not_mem_word hs₁) (zero_not_mem_word (zero_not_mem_afterWord hs₁))
    ⟨Nat.zero_le _, .inl hsecond, hthird⟩
  have hparse := (parseInput_eq line).trans (if_pos ⟨by omega, by omega, by omega⟩)
  simp only [← ite_not (words _ = []), ← Ne.eq_def, ← four_words_iff] at hparse
  refine ⟨_, hparse, textAt_cmd (zero_not_mem_word hs) hcmd, hfirst, hlast, ?_⟩
  rw [argsCount_eq]
  simp only [← textAt_head hfirst, ← textAt_head hlast]
  split_ifs <;> rfl

lemma args_eq (h : (words line).length ≤ 3) :
    [word (afterWord line), word (afterWord (afterWord line))].take (min ((words line).length - 1) 2) =
      (words line).tail := by
  have hlen := words_length_cases line
  rw [words_eq line, words_eq (afterWord line), words_eq (afterWord (afterWord line))]
  by_cases h₁ : word line = []
  · simp [h₁]
  by_cases h₂ : word (afterWord line) = []
  · simp [h₁, h₂]
  by_cases h₃ : word (afterWord (afterWord line)) = []
  · simp [h₁, h₂, h₃]
  · have hnone : words (afterWord (afterWord (afterWord line))) = [] := by
      rw [if_neg h₁, if_neg h₂, if_neg h₃] at hlen
      exact List.length_eq_zero_iff.mp (by omega)
    simp [h₁, h₂, h₃, hnone]

/-! ### One turn -/

lemma putchar_l (h : console.l = 0) (c color : UInt8) : (console.putchar c color).l = 0 := by
  unfold Console.putchar
  split_ifs
  · rfl
  · exact h
  · exact h

lemma put_l (h : console.l = 0) (text : Text) : (put console text).l = 0 := by
  have hputs : ∀ (str : Str) {console : Console}, console.l = 0 → (console.puts str text.color).l = 0 := by
    intro str
    induction str with
    | nil => exact fun h => h
    | cons c str ih => exact fun h => ih (putchar_l h c text.color)
  exact hputs text.str h

lemma puts_l (texts : List Text) (h : console.l = 0) : (texts.foldl put console).l = 0 := by
  induction texts generalizing console with
  | nil => exact h
  | cons text texts ih => exact ih (put_l h text)

lemma foldl_l {α : Type} {f : Console → α → Console} (hf : ∀ console a, (f console a).l = console.l) (as : List α)
    (console : Console) : (as.foldl f console).l = console.l := by
  induction as generalizing console with
  | nil => rfl
  | cons a as ih => exact (ih (f console a)).trans (hf console a)

lemma clear_l (console : Console) : console.framebufferClear.resetWritePosition.l = console.l := by
  have hreset : ∀ console : Console, console.resetWritePosition.l = console.l := fun _ => rfl
  have hwrite : ∀ (row col c fg bg : UInt8) (console : Console),
      (console.framebufferWrite row col c fg bg).l = console.l :=
    fun _ _ _ _ _ _ => rfl
  rw [hreset, Console.framebufferClear, foldl_l]
  intro console i
  rw [foldl_l]
  exact fun console j => hwrite ..

lemma display_l (setting : Setting) (cmd : Str) (args : List Str) (h : console.l = 0) :
    (display setting cmd args console).l = 0 := by
  unfold display
  split
  · split_ifs
    · exact puts_l _ h
    · rw [clear_l]
      exact h
  · exact puts_l _ h
  · exact h
  · exact h
  · exact puts_l _ h

namespace Loop

lemma begin_emptyLine (w : World) (h : console.l = 0) : EmptyLine (begin w console).dialogue :=
  ⟨rfl, rfl, puts_l _ h, rfl, rfl⟩

lemma obeyLine_eq (hdone : Done line s.dialogue) (hs : 0 ∉ line) (hfits : ∀ w ∈ words line, w.length ≤ 511)
    (setting : Setting) :
    ∃ console, console.l = 0 ∧ s.obeyLine setting = (obey setting line s.world).map fun w => begin w console := by
  have hl : s.console.l = 0 := hdone.finished.l
  obtain ⟨l, hparse, hcmd, hfirst, hsecond, hcount⟩ := parseInput_fits hs hfits
  have htext : textAt 2048 s.input.buf 0 = some line := hdone.text
  by_cases hmany : 4 ≤ (words line).length
  · refine ⟨_, put_l hl ⟨ascii "error: too many arguments\n", lightRed⟩, ?_⟩
    have hobey : obey setting line s.world = some { s.world with kernel := setting.kernel } := by
      unfold obey
      split
      · rfl
      · rename_i cmd args hwords
        rw [hwords, List.length_cons] at hmany
        rw [if_pos (by omega)]
    rw [hobey, obeyLine, htext, Option.bind_eq_bind, Option.bind_some, hparse, Option.bind_eq_bind,
      Option.bind_some, if_pos hmany]
    rfl
  · have hargs := @args_eq line (by omega)
    have hobey : obey setting line s.world =
        act setting.env (word line) (words line).tail { s.world with kernel := setting.kernel } := by
      unfold obey
      rw [words_eq] at hmany ⊢
      by_cases hnil : word line = []
      · rw [if_pos hnil, hnil]
        rfl
      · rw [if_neg hnil] at hmany ⊢
        rw [List.length_cons] at hmany
        dsimp only
        rw [if_neg (by omega)]
        rfl
    refine ⟨_, display_l setting (word line) (words line).tail hl, ?_⟩
    rw [hobey, obeyLine, htext, Option.bind_eq_bind, Option.bind_some, hparse, Option.bind_eq_bind,
      Option.bind_some, if_neg hmany]
    dsimp only
    rw [if_neg (by decide), hcmd, Option.bind_some, hfirst, Option.bind_some, hsecond, Option.bind_some,
      hcount, hargs, Option.map_eq_bind]
    rfl

lemma run_terminal (events : List Terminal.Event) (s : Loop) : s.run (events.map .terminal) =
    some ⟨s.world, (s.dialogue.run events).console, (s.dialogue.run events).input⟩ := by
  induction events generalizing s with
  | nil => rfl
  | cons event events ih => exact ih _

lemma run_entry (hs : EmptyLine s.dialogue) (he : e.Typed) :
    ∃ console, console.l = 0 ∧ s.run e.events = (obey e.setting e.line s.world).map fun w => begin w console := by
  have hdone := EmptyLine.done hs he
  have hterminal := run_terminal (e.before ++ .key e.enter :: e.behind) s
  generalize s.dialogue.run (e.before ++ .key e.enter :: e.behind) = t at hdone hterminal
  have hproceed : s.run e.events = obeyLine e.setting ⟨s.world, t.console, t.input⟩ := by
    rw [run] at hterminal
    rw [run, Entry.events, List.foldlM_append, hterminal, Option.bind_eq_bind, Option.bind_some, List.foldlM_cons,
      step, if_pos hdone.finished.returned]
    exact bind_pure _
  rw [hproceed]
  exact obeyLine_eq (s := ⟨s.world, t.console, t.input⟩) hdone
    (zero_not_mem_foldl List.not_mem_nil _) he.fits e.setting

end Loop

theorem typed_session_is_obeyed (hs : EmptyLine s.dialogue) (entries : List Entry)
    (hentries : ∀ e ∈ entries, e.Typed) : (s.run (entries.flatMap Entry.events)).map Loop.world =
    obeyAll entries s.world ∧
      ∀ s', s.run (entries.flatMap Entry.events) = some s' → EmptyLine s'.dialogue := by
  induction entries generalizing s with
  | nil => exact ⟨rfl, fun s' h => Option.some.inj h ▸ hs⟩
  | cons e entries ih =>
    obtain ⟨he, hrest⟩ := List.forall_mem_cons.mp hentries
    obtain ⟨console, hl, hrun⟩ := Loop.run_entry hs he
    have hsplit : s.run ((e :: entries).flatMap Entry.events) =
        (s.run e.events).bind fun s => s.run (entries.flatMap Entry.events) := by
      rw [List.flatMap_cons, Loop.run, List.foldlM_append]
      rfl
    rw [hsplit, hrun, obeyAll]
    cases obey e.setting e.line s.world with
    | none => exact ⟨rfl, fun s' h => absurd h (by simp)⟩
    | some w => exact ih (Loop.begin_emptyLine w hl) hrest

instance decidableKeepsAll : (pending : UInt8) → (events : List Terminal.Event) → Decidable
    (KeepsAll pending events)
  | _, [] => isTrue trivial
  | pending, .key scancode :: events =>
    letI := decidableKeepsAll (decode scancode) events
    letI := decidableKeepsAll pending events
    inferInstanceAs (Decidable (if IsMake scancode then pending = 0 ∧ KeepsAll (decode scancode) events
      else KeepsAll pending events))
  | _, .poll :: events => decidableKeepsAll 0 events

/-- The keys of `mkdir b`, of Backspace and of `a`, each released before the next one. -/
def mkdirEntry : Entry where
  before := [0x32, 0x25, 0x20, 0x17, 0x13, 0x39, 0x30, 0x0E, 0x1E].flatMap fun scancode =>
    [.key scancode, .poll, .key (scancode ||| 0x80)]
  enter := 0x1C
  behind := [.key 0x9C, .key 0x1E, .poll]
  setting := ⟨plainEnv, [], [], freshWorld.kernel⟩

lemma length_foldl_typeOnto (cs text : Str) : (cs.foldl typeOnto text).length ≤ text.length + 2 * cs.length := by
  induction cs generalizing text with
  | nil => exact Nat.le_add_right _ _
  | cons c cs ih =>
    have hone : (typeOnto text c).length ≤ text.length + 2 := by
      unfold typeOnto
      split_ifs
      · rw [List.length_dropLast]
        omega
      · rw [List.length_append]
        exact le_rfl
      · omega
      · rw [List.length_append, List.length_singleton]
        omega
    have hrest := ih (typeOnto text c)
    rw [List.foldl_cons, List.length_cons]
    omega

lemma mkdirEntry_line : mkdirEntry.line = [0x6D, 0x6B, 0x64, 0x69, 0x72, space, 0x61] := by decide +kernel

lemma mkdirEntry_typed : mkdirEntry.Typed where
  single := by
    intro scancode hmem
    simp only [mkdirEntry, List.flatMap_cons, List.flatMap_nil, List.cons_append, List.nil_append, List.append_nil,
      List.mem_cons, List.not_mem_nil, Terminal.Event.key.injEq, reduceCtorEq, or_false, false_or] at hmem
    rcases hmem with h | h | h | h | h | h | h | h | h | h | h | h | h | h | h | h | h | h <;> rw [h] <;> decide
  polled := by
    have hkeeps : KeepsAll 0 (mkdirEntry.before ++ [.key mkdirEntry.enter]) := by
      decide +kernel
    exact (keepsAll_iff.mp hkeeps).2
  enter := by decide
  seen := by simp [mkdirEntry]
  room := by
    intro front hfront
    have hlen := hfront.length_le
    have hdecoded : (decoded mkdirEntry.before).length = 9 := by decide +kernel
    have htext := length_foldl_typeOnto front []
    rw [List.length_nil] at htext
    omega
  fits := by
    rw [mkdirEntry_line]
    decide +kernel

theorem typed_session_is_obeyed_mkdir : ∃ s',
    (Loop.begin freshWorld idle.console).run mkdirEntry.events = some s' ∧
    oneFolder = some s'.world ∧ EmptyLine s'.dialogue := by
  have hempty : EmptyLine (Loop.begin freshWorld idle.console).dialogue := Loop.begin_emptyLine freshWorld rfl
  obtain ⟨hworld, hready⟩ := typed_session_is_obeyed hempty [mkdirEntry] (List.forall_mem_singleton.mpr
    mkdirEntry_typed)
  rw [List.flatMap_singleton] at hworld hready
  have hobeyed : obeyAll [mkdirEntry] freshWorld = oneFolder := by
    have hwords : words [0x6D, 0x6B, 0x64, 0x69, 0x72, space, 0x61] =
        [[0x6D, 0x6B, 0x64, 0x69, 0x72], [0x61]] := by
      decide +kernel
    have haction : actionOf [0x6D, 0x6B, 0x64, 0x69, 0x72] = .command .mkdir := rfl
    rw [obeyAll, mkdirEntry_line, obey, hwords]
    dsimp only
    rw [if_neg (by decide), act, haction]
    change oneFolder.bind some = oneFolder
    exact Option.bind_fun_some _
  have hsome : oneFolder.isSome := by decide +kernel
  have hone : ((Loop.begin freshWorld idle.console).run mkdirEntry.events).map Loop.world = oneFolder :=
    hworld.trans hobeyed
  obtain ⟨w, hw⟩ := Option.isSome_iff_exists.mp hsome
  obtain ⟨s', hs', rfl⟩ := Option.map_eq_some_iff.mp (hone.trans hw)
  exact ⟨s', hs', hw, hready s' hs'⟩

end Semogakelar.Shell
