import Semogakelar.Fat32.Delete
import Semogakelar.Library.Relocations
import Semogakelar.Shell.Place
import Semogakelar.Shell.Resolution

/-! What `mv` does to the directory tree: the entry that moves or gets a new name, and the entries that do not. -/

namespace Semogakelar.Shell

open Library Fat32 FileSystem Function

structure IsSource (w : World) (arg : Str) (d : UInt32) (i : Fin 64) : Prop where
  counted : (splitPath arg).Counted
  plain : (splitPath arg).last [] ≠ [dot] ∧ (splitPath arg).last [] ≠ [dot, dot]
  entered : ∃ s, Enters w arg s ∧ s.currentDirectory = d
  slot : 2 ≤ i.val
  live : (w.fs.table d i).Live
  name : (w.fs.table d i).name = padded 8 ((splitPath arg).last [])
  first : ∀ j : Fin 64, 2 ≤ j.val → j < i → (w.fs.table d j).Live →
    (w.fs.table d j).name ≠ padded 8 ((splitPath arg).last [])

structure IsDestination (w : World) (arg : Str) (t : UInt32) : Prop where
  counted : (splitPath arg).Counted
  entered : ∃ s, (w.parsed arg).session.changePath w.fs (splitPath arg).all = some (0, s) ∧ s.currentDirectory = t

inductive Landing (env : Env) (w : World) (dest : Str) (d : UInt32) (i : Fin 64) :
    UInt32 → Fin 64 → DirectoryEntry → Prop
  | moved {t : UInt32} {j : Fin 64} : IsDestination w dest t → Landing env w dest d i t j (w.fs.table d i)
  | renamed : DestinationMissing w dest → Landing env w dest d i d i
      { w.fs.table d i with name := padded 8 ((splitPath dest).last env.below) }
  | stayed : Landing env w dest d i d i (w.fs.table d i)

def OwnEntry (w : World) (dest : Str) (e : DirectoryEntry) (x : UInt32) (k : Fin 64) : Prop :=
  e.IsFolder ∧ x = e.clusterNumber ∧ (k = 1 ∨ k = 0 ∧ DestinationMissing w dest)

structure OthersKept (w : World) (dest : Str) (d : UInt32) (i : Fin 64) (w' : World) : Prop where
  dirs : ∀ x, w.fs.volume.IsDir x → w'.fs.volume.IsDir x
  entries : ∀ x k, w.fs.volume.IsDir x → (w.fs.table x k).Live → ¬ (x = d ∧ k = i) →
    ¬ OwnEntry w dest (w.fs.table d i) x k → w'.fs.table x k = w.fs.table x k

structure ListedOnce (fs : FileSystem) (t : UInt32) (j : Fin 64) (e : DirectoryEntry) : Prop where
  slot : 2 ≤ j.val
  live : e.Live
  directory : fs.volume.IsDir t
  entry : fs.table t j = e
  once : ∀ x k, fs.volume.IsDir x → 2 ≤ k.val → (fs.table x k).Live →
    (fs.table x k).clusterNumber = e.clusterNumber → x = t ∧ k = j

structure LosesNothing (env : Env) (w : World) (src dest : Str) (w' : World) : Prop where
  others : ∀ d i, IsSource w src d i → OthersKept w dest d i w'
  source : ∀ d i, IsSource w src d i → ∃ t j e, Landing env w dest d i t j e ∧ ListedOnce w'.fs t j e
  missing : (¬ ∃ d i, IsSource w src d i) → ∀ c, readClusters w'.fs.disk c = readClusters w.fs.disk c

structure AlreadyNamed (fs : FileSystem) (d : UInt32) (i : Fin 64) (newName : Str) : Prop where
  entry : (fs.table d i).name = padded 8 newName
  folder : (fs.table d i).IsFolder → (fs.table (fs.table d i).clusterNumber 0).name = padded 8 newName

def RenameSafe (env : Env) (w : World) (src dest : Str) : Prop :=
  ∀ c s i, (w.parsed src).session.changePath w.fs (splitPath src).parents = some (c, s) →
    findName (w.fs.table s.currentDirectory) 0 (padded 8 src) = some i →
    IsSource w src s.currentDirectory i ∨
      AlreadyNamed w.fs s.currentDirectory i ((splitPath dest).last env.below)

structure TransferSafe (w : World) (src dest : Str) (d : UInt32) (i : Fin 64) (t : UInt32) (j : Fin 64) :
    Prop where
  source : IsSource w src d i
  inPlace : t = d → j = i
  destination : t ≠ d → IsDestination w dest t
  vacant : t ≠ d → ¬ (w.fs.table t j).Live
  outside : t ≠ d → (w.fs.table d i).IsFolder → ¬ w.fs.volume.Within (w.fs.table d i).clusterNumber t
  self : (w.fs.table d i).IsFolder → w.fs.table (w.fs.table d i).clusterNumber 0 = w.fs.table d i

/-- Where `move` starts both of its walks: at the root as soon as one of the arguments is absolute. -/
def moveStart (w : World) (src dest : Str) : Session := ((w.parsed dest).parsed src).session

structure MoveFinds (env : Env) (w : World) (src dest : Str) (s : Session) (i : Fin 64) : Prop where
  entered : (moveStart w src dest).changePath w.fs (splitPath src).parents = some (0, s)
  found : findName s.currentDirTable 2 (padded 8 ((splitPath src).last env.below)) = some i

def MoveSafe (env : Env) (w : World) (src dest : Str) : Prop :=
  ∀ t, (moveStart w src dest).changePath w.fs (splitPath dest).all = some (0, t) →
    ∃ s i j, MoveFinds env w src dest s i ∧ findFree t.currentDirTable 2 = some j ∧
      TransferSafe w src dest s.currentDirectory i t.currentDirectory j

structure MvSafe (env : Env) (w : World) (src dest : Str) : Prop where
  rename : DestinationMissing w dest → containsInvalidChar ((splitPath dest).last env.below) dot = false →
    RenameSafe env w src dest
  move : ¬ DestinationMissing w dest → MoveSafe env w src dest

variable {env : Env} {w w' : World} {src dest : Str} {fs fs' : FileSystem} {d t x : UInt32} {i j k : Fin 64}
  {e : DirectoryEntry}

/-! ### Edits of single tables -/

lemma writeTable_table {c x : UInt32} (hc : c.toNat < 2 ^ 26) (hx : x.toNat < 2 ^ 26) (table : DirectoryTable)
    (w : World) : (w.writeTable c table).fs.table x = update w.fs.table c table x := by
  by_cases h : x = c
  · subst h
    rw [update_self]
    exact (congrArg tableEquiv (read_write_self _ _ _)).trans (Equiv.apply_symm_apply _ _)
  · rw [update_of_ne h]
    exact congrArg tableEquiv (read_write_ne _ _ hc hx h)

lemma parsed_settled (hs : w.session.Settled w.fs) (arg : Str) :
    (w.parsed arg).session.Settled w.fs := by
  cases h : isAbsolute arg with
  | false =>
    rw [parsed_relative h]
    exact hs
  | true =>
    rw [parsed_absolute h]
    exact ⟨Volume.isDir_root, rfl⟩

lemma IsSource.isDir (hw : w.fs.WellFormed) (hs : w.session.Settled w.fs) (h : IsSource w src d i) :
    w.fs.volume.IsDir d := by
  obtain ⟨s, hs', rfl⟩ := h.entered
  exact (changePath_settled hw (parsed_settled hs src) hs').directory

lemma IsSource.unique (h : IsSource w src d i) (h' : IsSource w src t j) : d = t ∧ i = j := by
  obtain ⟨s, hs, rfl⟩ := h.entered
  obtain ⟨s', hs', rfl⟩ := h'.entered
  obtain rfl := (outcome_unique hs hs').2
  refine ⟨rfl, ?_⟩
  rcases lt_trichotomy i j with hlt | heq | hlt
  · exact (h'.first i h.slot hlt h.live h.name).elim
  · exact heq
  · exact (h.first j h'.slot hlt h'.live h'.name).elim

lemma losesNothing_of_source (hsrc : IsSource w src d i) (hothers : OthersKept w dest d i w')
    (hlanding : ∃ t j e, Landing env w dest d i t j e ∧ ListedOnce w'.fs t j e) :
    LosesNothing env w src dest w' := by
  constructor
  · intro d' i' hsrc'
    obtain ⟨rfl, rfl⟩ := hsrc.unique hsrc'
    exact hothers
  · intro d' i' hsrc'
    obtain ⟨rfl, rfl⟩ := hsrc.unique hsrc'
    exact hlanding
  · intro hnone
    exact (hnone ⟨d, i, hsrc⟩).elim

lemma LosesNothing.kept (h : LosesNothing env w src dest w') (hx : w.fs.volume.IsDir x)
    (hl : (w.fs.table x k).Live)
    (hne : ∀ {d i}, IsSource w src d i → ¬ (x = d ∧ k = i) ∧ ¬ OwnEntry w dest (w.fs.table d i) x k) :
    w'.fs.table x k = w.fs.table x k := by
  by_cases hsrc : ∃ d i, IsSource w src d i
  · obtain ⟨d, i, hsrc⟩ := hsrc
    exact (h.others d i hsrc).entries x k hx hl (hne hsrc).1 (hne hsrc).2
  · rw [FileSystem.table, FileSystem.table, h.missing hsrc]

lemma slot_unique (hw : fs.WellFormed) (hd : fs.volume.IsDir d) (hi : 2 ≤ i.val) (hl : (fs.table d i).Live)
    (hx : fs.volume.IsDir x) (hk : 2 ≤ k.val) (hlk : (fs.table x k).Live)
    (hc : (fs.table x k).clusterNumber = (fs.table d i).clusterNumber) : x = d ∧ k = i := by
  have hown : fs.volume.Owns x k (fs.table x k).item.head := hw.sound.entry_owns ⟨hx, item_of_live hk hlk⟩
  have hown' : fs.volume.Owns d i (fs.table d i).item.head := hw.sound.entry_owns ⟨hd, item_of_live hi hl⟩
  have hhead : (fs.table x k).item.head = (fs.table d i).item.head := hc
  rw [hhead] at hown
  exact hw.sound.disjoint hown hown'

structure SameItems (fs fs' : FileSystem) : Prop where
  live : ∀ x k, fs.volume.IsDir x → 2 ≤ k.val → ((fs'.table x k).Live ↔ (fs.table x k).Live)
  item : ∀ x k, fs.volume.IsDir x → 2 ≤ k.val → (fs'.table x k).item = (fs.table x k).item

namespace SameItems

lemma isDir_iff (h : SameItems fs fs') : fs'.volume.IsDir x ↔ fs.volume.IsDir x := by
  refine Volume.isDir_congr ?_ fun x k hx => ?_
  · rfl
  by_cases hk : 2 ≤ k.val
  · simp only [volume, volumeOf, h.live x k hx hk, h.item x k hx hk]
  · rw [item_eq_none.mpr fun hn => hk hn.1, item_eq_none.mpr fun hn => hk hn.1]

lemma listedOnce (h : SameItems fs fs') (hw : fs.WellFormed) (hd : fs.volume.IsDir d) (hi : 2 ≤ i.val)
    (hl : (fs.table d i).Live) : ListedOnce fs' d i (fs'.table d i) where
  slot := hi
  live := (h.live d i hd hi).mpr hl
  directory := h.isDir_iff.mpr hd
  entry := rfl
  once := by
    intro x k hx hk hlk hc
    have hx := h.isDir_iff.mp hx
    have hc : (fs'.table x k).item.head = (fs'.table d i).item.head := hc
    rw [h.item x k hx hk, h.item d i hd hi] at hc
    exact slot_unique hw hd hi hl hx hk ((h.live x k hx hk).mp hlk) hc

end SameItems

lemma losesNothing_of_fs (hw : w.fs.WellFormed) (hs : w.session.Settled w.fs) (h : w'.fs = w.fs) :
    LosesNothing env w src dest w' := by
  have hsame : SameItems w.fs w'.fs := by
    rw [h]
    exact ⟨fun _ _ _ _ => Iff.rfl, fun _ _ _ _ => rfl⟩
  constructor
  · intro d i hsrc
    refine ⟨fun x hx => hsame.isDir_iff.mpr hx, fun x k _ _ _ _ => ?_⟩
    rw [h]
  · intro d i hsrc
    refine ⟨d, i, w.fs.table d i, .stayed, ?_⟩
    have honce := hsame.listedOnce hw (hsrc.isDir hw hs) hsrc.slot hsrc.live
    rwa [h] at honce ⊢
  · intro _ c
    rw [h]

end Semogakelar.Shell
