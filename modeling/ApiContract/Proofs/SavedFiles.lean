import Mathlib.Data.List.Basic
import ApiContract.Files
/-!
# Saved files

A file that has been saved is read back under the path that it was saved under. Saving makes the
folders on the way, and it leaves every folder that there was; so the names of the path lead to the
same place afterwards.

* `FileStore.Extends` : a store with at least the folders of another.
* `FileStore.enter_eq_some` : the folders that are made lead to the folder that was entered.
* `FileStore.read_save` : what is saved is read.
* `FileStore.run_save_eq_ok` : the same step as a program on files.
-/

namespace ApiContract.FileStore

variable {s s' s'' : FileStore} {folder folder' : Place} {names : List String}

/-- A store starts paths where another does, and has all its folders. -/
structure Extends (s' s : FileStore) : Prop where
  home : s'.home = s.home
  folders : ∀ place, s.isFolder place = true → s'.isFolder place = true

theorem Extends.refl (s : FileStore) : s.Extends s := ⟨rfl, fun _ => id⟩

theorem Extends.trans (h' : s''.Extends s') (h : s'.Extends s) : s''.Extends s :=
  ⟨h'.home.trans h.home, fun place hplace => h'.folders place (h.folders place hplace)⟩

/-- A folder that is made is there, beside those that there were. -/
theorem extends_addFolder (s : FileStore) (place : Place) :
    Extends { s with folders := s.folders ++ [place] } s ∧
      isFolder { s with folders := s.folders ++ [place] } place = true := by
  refine ⟨⟨rfl, fun other hother => ?_⟩, by simp [isFolder]⟩
  rw [isFolder, Bool.or_eq_true] at hother ⊢
  exact hother.imp_right fun h => by simpa using Or.inl (List.contains_iff_mem.1 h)

theorem isFolder_start (s : FileStore) (path : String) : s.isFolder (s.start path) = true := by
  unfold start isFolder
  split <;> simp

theorem walk_cons (h : s.isFolder folder = true) (name : String) (names : List String) :
    s.walk folder (name :: names) = s.walk (step folder name) names := if_pos h

/-- What has been entered is a folder, and from then on the names lead to it from where they were
entered. -/
theorem enter_eq_some (h : s.enter folder names = some (s', folder'))
    (hfolder : s.isFolder folder = true) :
    s'.Extends s ∧ s'.isFolder folder' = true ∧
      ∀ later : FileStore, later.Extends s' → ∀ rest,
        later.walk folder (names ++ rest) = later.walk folder' rest := by
  induction names generalizing s folder with
  | nil =>
    obtain ⟨rfl, rfl⟩ := Prod.mk.inj (Option.some.inj h)
    exact ⟨.refl s, hfolder, fun _ _ _ => rfl⟩
  | cons name names ih =>
    -- the other names are entered from a store that has the next folder
    obtain ⟨next, hnext, hplace, h⟩ : ∃ next : FileStore, next.Extends s ∧
        next.isFolder (step folder name) = true ∧
        next.enter (step folder name) names = some (s', folder') := by
      rw [enter] at h
      split at h
      · next hplace => exact ⟨s, .refl s, hplace, h⟩
      · split at h
        · cases h
        · obtain ⟨hnext, hplace⟩ := extends_addFolder s (step folder name)
          exact ⟨_, hnext, hplace, h⟩
    obtain ⟨hextends, hfolder', hwalk⟩ := ih h hplace
    refine ⟨hextends.trans hnext, hfolder', fun later hlater rest => ?_⟩
    have hknown := (hlater.trans (hextends.trans hnext)).folders folder hfolder
    rw [List.cons_append, walk_cons hknown]
    exact hwalk later hlater rest

theorem step_of_not_isMove {name : String} (h : isMove name = false) (folder : Place) :
    step folder name = folder ++ [name] := by
  simp only [isMove, Bool.or_eq_false_iff] at h
  simp [step, h]

/-- What a store is in which a file has been saved: the folder of the file has been entered, and the
file stands in it under the last name of the path. -/
theorem of_save {path text : String} (h : s.save path text = .ok s') :
    isPath path = true ∧ ∃ name entered folder, (namesOf path).getLast? = some name ∧
      s.enter (s.start path) (namesOf path).dropLast = some (entered, folder) ∧
      isMove name = false ∧ s'.Extends entered ∧
      s'.files.get? (folder ++ [name]) = some text := by
  rw [save] at h
  split at h
  case isFalse => cases h
  case isTrue hpath =>
  split at h
  case h_2 => cases h
  case h_1 name entered folder hlast henter =>
  dsimp only at h
  split at h
  case isTrue => cases h
  case isFalse hfree =>
  obtain rfl := Except.ok.inj h
  rw [Bool.or_eq_true, not_or, Bool.not_eq_true] at hfree
  refine ⟨hpath, name, entered, folder, hlast, henter, hfree.1, ⟨rfl, fun _ => id⟩, ?_⟩
  rw [Assoc.get?_insert, if_pos rfl]

/-- A file that has been saved is read back. -/
theorem read_save {path text : String} (h : s.save path text = .ok s') :
    s'.read path = .ok text := by
  obtain ⟨hpath, name, entered, folder, hlast, henter, hname, hsaved, hfile⟩ := of_save h
  obtain ⟨hextends, hfolder, hwalk⟩ := enter_eq_some henter (isFolder_start s path)
  have hnames : (namesOf path).dropLast ++ [name] = namesOf path :=
    List.dropLast_append_getLast? name hlast
  have hstart : s'.start path = s.start path := by
    unfold start
    rw [(hsaved.trans hextends).home]
  have hplace : s'.walk (s.start path) (namesOf path) = some (folder ++ [name]) := by
    rw [← hnames, hwalk s' hsaved, walk_cons (hsaved.folders folder hfolder),
      step_of_not_isMove hname]
    rfl
  rw [read, if_pos hpath, hstart, hplace, Option.bind_some, hfile]

/-- Saving succeeds if the store can take the file, and then it leaves that store. -/
theorem run_save_eq_ok {path text : String} :
    (Files.save path text : StateM FileStore (Except Fault Unit)).run s = (.ok (), s') ↔
      s.save path text = .ok s' := by
  cases h : s.save path text with
  | ok after =>
    have hrun : (Files.save path text : StateM FileStore (Except Fault Unit)).run s =
        (.ok (), after) := by simp only [Files.save, StateT.run, h]
    rw [hrun]
    exact ⟨fun heq => congrArg Except.ok (Prod.mk.inj heq).2, fun heq => by rw [Except.ok.inj heq]⟩
  | error fault =>
    have hrun : (Files.save path text : StateM FileStore (Except Fault Unit)).run s =
        (.error fault, s) := by simp only [Files.save, StateT.run, h]
    rw [hrun]
    refine ⟨fun heq => ?_, fun heq => ?_⟩
    · cases (Prod.mk.inj heq).1
    · cases heq

end ApiContract.FileStore
