import Semogakelar.Shell.Moving

/-! The loops of the walkers, with the index that they advance, and when they end. -/

namespace Semogakelar.Shell

open Fat32

/-- The loop of `change_path` and of `change_path_mv` from index `idx` on. At the root `..` is a `continue`, which
leaves out the `idx++` at the end of the body. -/
def walkLoop (scratch : Scratch) (fs : FileSystem) (path : List Str) : ℕ → ℕ → Trail → Outcome Trail ℤ
  | 0, _, t => .running t
  | fuel + 1, idx, t =>
    if h : idx < path.length then
      if path[idx] = [dot, dot] then
        if t.path = rootPath then walkLoop scratch fs path fuel idx t
        else (parentDirectory fs t).elim (.outside t) fun t => walkLoop scratch fs path fuel (idx + 1) t
      else if path[idx] = [dot] then walkLoop scratch fs path fuel (idx + 1) t
      else (changeDirectory scratch fs path[idx] t).elim (.outside t) fun r =>
        if r.1 = 0 then walkLoop scratch fs path fuel (idx + 1) r.2 else .returned r.1 r.2
    else .returned 0 t

/-- Both walkers around the loop. They differ in what an error leaves behind. -/
def Session.walkWith (scratch : Scratch) (failed : Trail → Session) (fuel : ℕ) (fs : FileSystem) (path : List Str)
    (s : Session) : Outcome Session ℤ :=
  if path = [] then .returned 0 s
  else match walkLoop scratch fs path fuel 0 s.trail with
    | .returned errVal t => .returned errVal (if errVal = 0 then t.session else failed t)
    | .outside t => .outside { s with currentPath := t.path }
    | .running t => .running { s with currentPath := t.path }

def Session.changePathLoop (fuel : ℕ) (fs : FileSystem) (path : List Str) (s : Session) : Outcome Session ℤ :=
  s.walkWith .shared (fun _ => s) fuel fs path

def Session.changePathMvLoop (fuel : ℕ) (fs : FileSystem) (path : List Str) (s : Session) : Outcome Session ℤ :=
  s.walkWith .own (fun t => { s with currentPath := t.path }) fuel fs path

def Meets (scratch : Scratch) (fs : FileSystem) (P : Str → Trail → Prop) (names : List Str) (t : Trail) : Prop :=
  ∃ front name rest t', names = front ++ name :: rest ∧ Walks scratch fs front t t' ∧ P name t'

def UpAtRoot (name : Str) (t : Trail) : Prop := name = [dot, dot] ∧ t.path = rootPath

def TextLost (scratch : Scratch) (fs : FileSystem) (name : Str) (t : Trail) : Prop :=
  name = [dot, dot] ∧ retractCurrentPath t.path = none ∨
    name ≠ [dot, dot] ∧ name ≠ [dot] ∧ changeDirectory scratch fs name t = none

variable {scratch : Scratch} {fs : FileSystem} {name : Str} {names : List Str} {t t' : Trail} {fuel idx : ℕ}
  {code : ℤ} {P : Str → Trail → Prop} {s : Session}

lemma meets_nil : ¬ Meets scratch fs P [] t := by
  rintro ⟨front, name, rest, -, h, -⟩
  simp at h

lemma meets_cons : Meets scratch fs P (name :: names) t ↔
    P name t ∨ ∃ t', Advances scratch fs name t t' ∧ Meets scratch fs P names t' := by
  constructor
  · rintro ⟨_ | ⟨first, front⟩, name', rest, t', h, hw, hp⟩
    · cases hw
      obtain ⟨rfl, rfl⟩ := List.cons.inj h
      exact .inl hp
    · cases hw with
      | cons hstep hw =>
        obtain ⟨rfl, rfl⟩ := List.cons.inj h
        exact .inr ⟨_, hstep, front, name', rest, t', rfl, hw, hp⟩
  · rintro (hp | ⟨t', hstep, front, name', rest, t₁, rfl, hw, hp⟩)
    · exact ⟨[], name, names, t, rfl, .nil, hp⟩
    · exact ⟨name :: front, name', rest, t₁, rfl, .cons hstep hw, hp⟩

lemma Advances.unique {t₁ t₂ : Trail} (h₁ : Advances scratch fs name t t₁) (h₂ : Advances scratch fs name t t₂) :
    t₁ = t₂ := by
  cases h₁ with
  | up _ hp =>
    cases h₂ with
    | up _ hp' => exact Option.some.inj (hp.symm.trans hp')
    | down hup => exact (hup rfl).elim
  | stay =>
    cases h₂ with
    | stay => rfl
    | down _ hstay => exact (hstay rfl).elim
  | down hup hstay hc =>
    cases h₂ with
    | up => exact (hup rfl).elim
    | stay => exact (hstay rfl).elim
    | down _ _ hc' => exact (Prod.mk.inj (Option.some.inj (hc.symm.trans hc'))).2

lemma Advances.meets_iff (h : Advances scratch fs name t t') :
    Meets scratch fs P (name :: names) t ↔ P name t ∨ Meets scratch fs P names t' := by
  rw [meets_cons]
  constructor
  · rintro (hp | ⟨t₁, hstep, hm⟩)
    · exact .inl hp
    · exact .inr (h.unique hstep ▸ hm)
  · rintro (hp | hm)
    · exact .inl hp
    · exact .inr ⟨t', h, hm⟩

lemma Advances.goes_on (h : Advances scratch fs name t t') : ¬ UpAtRoot name t ∧ ¬ TextLost scratch fs name t := by
  cases h with
  | up hroot hp =>
    refine ⟨fun h => hroot h.2, ?_⟩
    rintro (⟨-, hnone⟩ | ⟨hup, -⟩)
    · rw [parentDirectory, hnone] at hp
      cases hp
    · exact hup rfl
  | stay => exact ⟨fun h => absurd h.1 (by decide), fun h => by simp [TextLost] at h⟩
  | down hup hstay hc =>
    refine ⟨fun h => hup h.1, ?_⟩
    rintro (⟨h, -⟩ | ⟨-, -, hnone⟩)
    · exact hup h
    · rw [hnone] at hc
      cases hc

lemma walkLoop_succ {path : List Str} (h : path[idx]? = some name) :
    walkLoop scratch fs path (fuel + 1) idx t =
      if name = [dot, dot] then
        if t.path = rootPath then walkLoop scratch fs path fuel idx t
        else (parentDirectory fs t).elim (.outside t) fun t => walkLoop scratch fs path fuel (idx + 1) t
      else if name = [dot] then walkLoop scratch fs path fuel (idx + 1) t
      else (changeDirectory scratch fs name t).elim (.outside t) fun r =>
        if r.1 = 0 then walkLoop scratch fs path fuel (idx + 1) r.2 else .returned r.1 r.2 := by
  obtain ⟨hlt, rfl⟩ := List.getElem?_eq_some_iff.mp h
  rw [walkLoop, dif_pos hlt]

lemma walkLoop_end {path : List Str} (h : path[idx]? = none) :
    walkLoop scratch fs path (fuel + 1) idx t = .returned 0 t := by
  rw [walkLoop, dif_neg (by simpa using h)]

def Turns (scratch : Scratch) (fs : FileSystem) (name : Str) (t : Trail)
    (f : List Str → ℕ → ℕ → Outcome Trail ℤ) : Prop :=
  ∀ path fuel idx, path[idx]? = some name → walkLoop scratch fs path (fuel + 1) idx t = f path fuel idx

lemma walk_step (scratch : Scratch) (fs : FileSystem) (name : Str) (t : Trail) :
    (∃ t', Advances scratch fs name t t' ∧ (∀ names, walk scratch fs (name :: names) t =
      walk scratch fs names t') ∧
      Turns scratch fs name t fun path fuel idx => walkLoop scratch fs path fuel (idx + 1) t') ∨
    (∃ code t', (¬ UpAtRoot name t ∧ ¬ TextLost scratch fs name t ∧ ∀ t', ¬ Advances scratch fs name t t') ∧
      (∀ names, walk scratch fs (name :: names) t = some (code, t')) ∧
      Turns scratch fs name t fun _ _ _ => .returned code t') ∨
    (UpAtRoot name t ∧ (∀ names, walk scratch fs (name :: names) t = none) ∧
      Turns scratch fs name t fun path fuel idx => walkLoop scratch fs path fuel idx t) ∨
    TextLost scratch fs name t ∧ (∀ names, walk scratch fs (name :: names) t = none) ∧
      Turns scratch fs name t fun _ _ _ => .outside t := by
  by_cases hup : name = [dot, dot]
  · subst hup
    by_cases hroot : t.path = rootPath
    · refine .inr (.inr (.inl ⟨⟨rfl, hroot⟩, fun names => ?_, fun path fuel idx h => ?_⟩))
      · rw [walk, if_pos rfl, if_pos hroot]
      · rw [walkLoop_succ h, if_pos rfl, if_pos hroot]
    cases hp : parentDirectory fs t with
    | none =>
      refine .inr (.inr (.inr ⟨.inl ⟨rfl, by simpa [parentDirectory] using hp⟩, fun names => ?_,
        fun path fuel idx h => ?_⟩))
      · rw [walk, if_pos rfl, if_neg hroot, hp, Option.bind_none]
      · rw [walkLoop_succ h, if_pos rfl, if_neg hroot, hp, Option.elim_none]
    | some t' =>
      refine .inl ⟨t', .up hroot hp, fun names => ?_, fun path fuel idx h => ?_⟩
      · rw [walk, if_pos rfl, if_neg hroot, hp, Option.bind_some]
      · rw [walkLoop_succ h, if_pos rfl, if_neg hroot, hp, Option.elim_some]
  by_cases hstay : name = [dot]
  · subst hstay
    refine .inl ⟨t, .stay, fun names => ?_, fun path fuel idx h => ?_⟩
    · rw [walk, if_neg hup, if_pos rfl]
    · rw [walkLoop_succ h, if_neg hup, if_pos rfl]
  cases hc : changeDirectory scratch fs name t with
  | none =>
    refine .inr (.inr (.inr ⟨.inr ⟨hup, hstay, hc⟩, fun names => ?_, fun path fuel idx h => ?_⟩))
    · rw [walk, if_neg hup, if_neg hstay, hc, Option.bind_none]
    · rw [walkLoop_succ h, if_neg hup, if_neg hstay, hc, Option.elim_none]
  | some r =>
    obtain ⟨code, t'⟩ := r
    by_cases hcode : code = 0
    · subst hcode
      refine .inl ⟨t', .down hup hstay hc, fun names => ?_, fun path fuel idx h => ?_⟩
      · rw [walk, if_neg hup, if_neg hstay, hc, Option.bind_some, if_pos rfl]
      · rw [walkLoop_succ h, if_neg hup, if_neg hstay, hc, Option.elim_some, if_pos rfl]
    · refine .inr (.inl ⟨code, t', ⟨fun h => hup h.1, ?_, fun t₁ hstep => ?_⟩, fun names => ?_,
        fun path fuel idx h => ?_⟩)
      · rintro (⟨h, -⟩ | ⟨-, -, hnone⟩)
        · exact hup h
        · rw [hnone] at hc
          cases hc
      · cases hstep with
        | up => exact hup rfl
        | stay => exact hstay rfl
        | down _ _ hc' =>
          rw [hc'] at hc
          exact hcode (Prod.mk.inj (Option.some.inj hc)).1.symm
      · rw [walk, if_neg hup, if_neg hstay, hc, Option.bind_some, if_neg hcode]
      · rw [walkLoop_succ h, if_neg hup, if_neg hstay, hc, Option.elim_some, if_neg hcode]

lemma walk_eq_none_iff : walk scratch fs names t = none ↔
    Meets scratch fs UpAtRoot names t ∨ Meets scratch fs (TextLost scratch fs) names t := by
  induction names generalizing t with
  | nil => exact iff_of_false (by simp [walk]) fun h => h.elim meets_nil meets_nil
  | cons name names ih =>
    obtain ⟨t', hstep, hwalk, -⟩ | ⟨code, t', ⟨hroot, htext, hno⟩, hwalk, -⟩ | ⟨hroot, hwalk, -⟩ |
      ⟨htext, hwalk, -⟩ :=
      walk_step scratch fs name t
    · rw [hwalk, ih, hstep.meets_iff, hstep.meets_iff, or_iff_right hstep.goes_on.1, or_iff_right hstep.goes_on.2]
    · rw [hwalk, meets_cons, meets_cons]
      refine iff_of_false (Option.some_ne_none _) ?_
      rintro ((h | ⟨t₁, h, -⟩) | (h | ⟨t₁, h, -⟩))
      · exact hroot h
      · exact hno t₁ h
      · exact htext h
      · exact hno t₁ h
    · rw [hwalk, meets_cons]
      exact iff_of_true rfl (.inl (.inl hroot))
    · rw [hwalk, meets_cons, meets_cons]
      exact iff_of_true rfl (.inr (.inl htext))

section

variable {path : List Str}

lemma drop_eq_nil_of_getElem? (h : path[idx]? = none) : path.drop idx = [] :=
  List.drop_eq_nil_of_le (List.getElem?_eq_none_iff.mp h)

lemma drop_eq_cons_of_getElem? (h : path[idx]? = some name) : path.drop idx = name :: path.drop (idx + 1) := by
  obtain ⟨hlt, rfl⟩ := List.getElem?_eq_some_iff.mp h
  exact List.drop_eq_getElem_cons hlt

lemma walk_of_walkLoop (h : walkLoop scratch fs path fuel idx t = .returned code t') :
    walk scratch fs (path.drop idx) t = some (code, t') := by
  induction fuel generalizing idx t with
  | zero => cases h
  | succ fuel ih =>
    cases hn : path[idx]? with
    | none =>
      rw [walkLoop_end hn] at h
      cases h
      rw [drop_eq_nil_of_getElem? hn, walk]
    | some name =>
      rw [drop_eq_cons_of_getElem? hn]
      obtain ⟨t₁, -, hwalk, hloop⟩ | ⟨c, t₁, -, hwalk, hloop⟩ | ⟨-, hwalk, hloop⟩ | ⟨-, -, hloop⟩ :=
        walk_step scratch fs name t
      · rw [hloop _ _ _ hn] at h
        rw [hwalk, ih h]
      · rw [hloop _ _ _ hn] at h
        cases h
        exact hwalk _
      · rw [hloop _ _ _ hn] at h
        rw [← drop_eq_cons_of_getElem? hn, ih h]
      · rw [hloop _ _ _ hn] at h
        cases h

lemma walkLoop_of_walk (h : walk scratch fs (path.drop idx) t = some (code, t')) :
    walkLoop scratch fs path ((path.drop idx).length + 1) idx t = .returned code t' := by
  induction hrest : path.drop idx generalizing idx t with
  | nil =>
    rw [hrest, walk] at h
    cases h
    exact walkLoop_end (List.getElem?_eq_none_iff.mpr (List.drop_eq_nil_iff.mp hrest))
  | cons name rest ih =>
    have hn : path[idx]? = some name := by
      rw [← List.head?_drop, hrest, List.head?_cons]
    have hnext : path.drop (idx + 1) = rest := by
      rw [drop_eq_cons_of_getElem? hn] at hrest
      exact (List.cons.inj hrest).2
    rw [hrest] at h
    obtain ⟨t₁, -, hwalk, hloop⟩ | ⟨c, t₁, -, hwalk, hloop⟩ | ⟨-, hwalk, -⟩ | ⟨-, hwalk, -⟩ :=
      walk_step scratch fs name t
    · rw [hwalk, ← hnext] at h
      rw [hloop _ _ _ hn, List.length_cons]
      exact ih h hnext
    · rw [hwalk] at h
      cases h
      exact hloop _ _ _ hn
    · rw [hwalk] at h
      cases h
    · rw [hwalk] at h
      cases h

lemma walkLoop_running (h : Meets scratch fs UpAtRoot (path.drop idx) t) (fuel : ℕ) :
    ∃ t', walkLoop scratch fs path fuel idx t = .running t' := by
  induction fuel generalizing idx t with
  | zero => exact ⟨t, rfl⟩
  | succ fuel ih =>
    cases hn : path[idx]? with
    | none =>
      rw [drop_eq_nil_of_getElem? hn] at h
      exact (meets_nil h).elim
    | some name =>
      have hm := h
      rw [drop_eq_cons_of_getElem? hn] at hm
      obtain ⟨t₁, hstep, -, hloop⟩ | ⟨c, t₁, ⟨hroot, -, hno⟩, -, -⟩ | ⟨-, -, hloop⟩ | ⟨htext, -, -⟩ :=
        walk_step scratch fs name t
      · rw [hloop _ _ _ hn]
        exact ih ((hstep.meets_iff.mp hm).resolve_left hstep.goes_on.1)
      · obtain hp | ⟨t₂, hstep, -⟩ := meets_cons.mp hm
        · exact (hroot hp).elim
        · exact (hno t₂ hstep).elim
      · rw [hloop _ _ _ hn]
        exact ih h
      · obtain ⟨rfl, hpath⟩ | ⟨t₂, hstep, -⟩ := meets_cons.mp hm
        · obtain ⟨-, hnone⟩ | ⟨hup, -⟩ := htext
          · rw [hpath] at hnone
            exact absurd hnone (by decide)
          · exact (hup rfl).elim
        · exact (hstep.goes_on.2 htext).elim

lemma walkLoop_ends_iff : (∃ fuel, walkLoop scratch fs path fuel 0 t = .returned code t') ↔
    walk scratch fs path t = some (code, t') :=
  ⟨fun ⟨_, h⟩ => walk_of_walkLoop h, fun h => ⟨path.length + 1, walkLoop_of_walk h⟩⟩

end

/-! ### `change_path` and `change_path_mv` -/

namespace Session

variable {path : List Str} {s' : Session} {failed : Trail → Session}

lemma walkWith_ends_iff : (∃ fuel, s.walkWith scratch failed fuel fs path = .returned code s') ↔
    (if path = [] then some (0, s) else (walk scratch fs path s.trail).map fun r =>
      (r.1, if r.1 = 0 then r.2.session else failed r.2)) = some (code, s') := by
  unfold walkWith
  split_ifs with hp
  · simp
  rw [Option.map_eq_some_iff]
  constructor
  · rintro ⟨fuel, h⟩
    split at h
    case h_1 errVal t hloop =>
      cases h
      exact ⟨(code, t), walk_of_walkLoop hloop, rfl⟩
    · cases h
    · cases h
  · rintro ⟨⟨errVal, t⟩, hwalk, he⟩
    cases he
    obtain ⟨fuel, hloop⟩ := walkLoop_ends_iff.mpr hwalk
    exact ⟨fuel, by rw [hloop]⟩

lemma changePathLoop_ends_iff : (∃ fuel, s.changePathLoop fuel fs path = .returned code s') ↔
    s.changePath fs path = some (code, s') := walkWith_ends_iff

lemma changePathMvLoop_ends_iff : (∃ fuel, s.changePathMvLoop fuel fs path = .returned code s') ↔
    s.changePathMv fs path = some (code, s') := walkWith_ends_iff

lemma walkWith_returns_iff : (∃ fuel code s', s.walkWith scratch failed fuel fs path = .returned code s') ↔
    ¬ Meets scratch fs UpAtRoot path s.trail ∧ ¬ Meets scratch fs (TextLost scratch fs) path s.trail := by
  rw [← not_or, ← walk_eq_none_iff, ← Ne, Option.ne_none_iff_exists']
  constructor
  · rintro ⟨fuel, code, s', h⟩
    have h := walkWith_ends_iff.mp ⟨fuel, h⟩
    split_ifs at h with hp
    · subst hp
      exact ⟨_, rfl⟩
    · obtain ⟨r, hr, -⟩ := Option.map_eq_some_iff.mp h
      exact ⟨r, hr⟩
  · rintro ⟨r, hr⟩
    by_cases hp : path = []
    · exact ⟨0, 0, s, if_pos hp⟩
    · obtain ⟨fuel, h⟩ := walkWith_ends_iff.mpr ((if_neg hp).trans (congrArg (Option.map _) hr))
      exact ⟨fuel, _, _, h⟩

lemma walkWith_running (h : Meets scratch fs UpAtRoot path s.trail) (fuel : ℕ) :
    ∃ s', s.walkWith scratch failed fuel fs path = .running s' := by
  have hp : path ≠ [] := by
    rintro rfl
    exact meets_nil h
  obtain ⟨t, ht⟩ : ∃ t, walkLoop scratch fs path fuel 0 s.trail = .running t := walkLoop_running h fuel
  rw [walkWith, if_neg hp, ht]
  exact ⟨_, rfl⟩

end Session

theorem path_change_ends_iff (fs : FileSystem) (path : List Str) (s : Session) :
    ((∃ fuel code s', s.changePathLoop fuel fs path = .returned code s') ↔
      ¬ Meets .shared fs UpAtRoot path s.trail ∧ ¬ Meets .shared fs (TextLost .shared fs) path s.trail) ∧
    ((∃ fuel code s', s.changePathMvLoop fuel fs path = .returned code s') ↔
      ¬ Meets .own fs UpAtRoot path s.trail ∧ ¬ Meets .own fs (TextLost .own fs) path s.trail) :=
  ⟨Session.walkWith_returns_iff, Session.walkWith_returns_iff⟩

theorem path_change_never_ends : formatted.WellFormed ∧ (Session.toRoot formatted).Settled formatted ∧
    ∀ fuel, (∃ s', (Session.toRoot formatted).changePathLoop fuel formatted [[dot, dot]] = .running s') ∧
      ∃ s', (Session.toRoot formatted).changePathMvLoop fuel formatted [[dot, dot]] = .running s' := by
  have hmeets : ∀ scratch, Meets scratch formatted UpAtRoot [[dot, dot]] (Session.toRoot formatted).trail :=
    fun scratch => ⟨[], [dot, dot], [], _, rfl, .nil, rfl, rfl⟩
  exact ⟨formatted_wellFormed, ⟨Library.Volume.isDir_root, rfl⟩, fun fuel =>
    ⟨Session.walkWith_running (hmeets _) fuel, Session.walkWith_running (hmeets _) fuel⟩⟩

end Semogakelar.Shell
