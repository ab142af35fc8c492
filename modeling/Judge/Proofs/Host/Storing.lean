import Judge.Host
import Judge.Proofs.Basic
import Judge.Proofs.Host.FileTree

/-!
Storing a file on a host: the directories above it are made, the file is written, and it may be made
executable. A path leads to the same place before and after, for no step takes away a directory or
touches a link.
-/

namespace Judge.Host

namespace FileTree

variable {tree changed : FileTree} {here place location : Location} {follow : Bool}

/-- A tree with all directories of another one and with the same links. -/
structure Grows (tree changed : FileTree) : Prop where
  directories : ∀ location, tree.isDirectory location = true → changed.isDirectory location = true
  links : ∀ location target, changed.lookup location = some (.link target) ↔
    tree.lookup location = some (.link target)

namespace Grows

lemma refl (tree : FileTree) : Grows tree tree := ⟨fun _ h => h, fun _ _ => Iff.rfl⟩

lemma trans {later : FileTree} (first : Grows tree changed) (second : Grows changed later) :
    Grows tree later :=
  ⟨fun location h => second.directories location (first.directories location h),
    fun location target => (second.links location target).trans (first.links location target)⟩

/-- Something that is no link is put where a file can be put. -/
lemma put {node : Node} (hnil : location ≠ []) (hfree : tree.Free location)
    (hnode : ∀ target, node ≠ .link target) : Grows tree (tree.put location node) := by
  constructor
  · intro other hother
    have hne : location ≠ other := by
      rintro rfl
      simp [hfree.isDirectory] at hother
    rwa [isDirectory, lookup_put _ _ hnil, if_neg hne, ← isDirectory]
  · intro other target
    rw [lookup_put _ _ hnil]
    split
    · next heq =>
      subst heq
      exact iff_of_false (fun h => hnode target (Option.some.inj h)) (hfree.ne_link target)
    · exact Iff.rfl

variable (h : Grows tree changed)
include h

lemma walkWith {through through' : Location → List String → Except IoError Location}
    (hthrough : ∀ here names place, through here names = .ok place →
      through' here names = .ok place)
    {names : List String} (hwalk : FileTree.walkWith through tree follow here names = .ok place) :
    FileTree.walkWith through' changed follow here names = .ok place := by
  induction names generalizing here with
  | nil => exact hwalk
  | cons name rest ih =>
    rw [FileTree.walkWith] at hwalk ⊢
    cases hhere : checkDirectory tree here with
    | error cause => simp [hhere, bind, Except.bind] at hwalk
    | ok _ =>
      have hhere' : checkDirectory changed here = .ok () :=
        checkDirectory_eq_ok_iff.mpr (h.directories _ (checkDirectory_eq_ok_iff.mp hhere))
      simp only [hhere, hhere', bind, Except.bind] at hwalk ⊢
      split at hwalk
      · next hstay => rw [if_pos hstay]; exact ih hwalk
      · next hstay =>
        rw [if_neg hstay]
        split at hwalk
        · next hup => rw [if_pos hup]; exact ih hwalk
        · next hup =>
          rw [if_neg hup]
          cases hname : checkName name with
          | error cause => simp [hname] at hwalk
          | ok _ =>
            simp only [hname] at hwalk ⊢
            -- Both trees have the same links, so they are followed at the same places.
            split at hwalk
            · next target hlink =>
              simp only [(h.links _ _).mpr hlink]
              split at hwalk
              · next hlast => rw [if_pos hlast]; exact hwalk
              · next hlast => rw [if_neg hlast]; exact hthrough _ _ _ hwalk
            · next hnone =>
              split
              · next target hlink => exact absurd ((h.links _ _).mp hlink) (hnone target)
              · exact ih hwalk

lemma walk {links : Nat} {names : List String}
    (hwalk : FileTree.walk tree follow links here names = .ok place) :
    FileTree.walk changed follow links here names = .ok place := by
  induction links generalizing here names place with
  | zero => contradiction
  | succ links ih => exact h.walkWith (fun _ _ _ => ih) hwalk

/-- A path still leads where it led. -/
theorem resolve {path : String} (hresolve : tree.resolve follow here path = .ok place) :
    changed.resolve follow here path = .ok place := by
  rw [FileTree.resolve] at hresolve ⊢
  split at hresolve
  · contradiction
  · split at hresolve
    · contradiction
    · split at hresolve
      · contradiction
      · next hnul hempty hlong =>
        rw [if_neg hnul, if_neg hempty, if_neg hlong]
        exact h.walk hresolve

/-- What is reached stays so. -/
lemma checkReach (hreach : FileTree.checkReach tree location = .ok ()) :
    FileTree.checkReach changed location = .ok () := by
  obtain ⟨⟨⟩, hthrough, hname⟩ := exists_of_bind_eq_ok hreach
  rw [FileTree.checkReach, checkThrough_mono h.directories hthrough]
  exact hname

end Grows

/-- A tree that still holds all that another one holds. -/
def Holds (tree changed : FileTree) : Prop :=
  ∀ location node, tree.lookup location = some node → changed.lookup location = some node

lemma Holds.stat (h : Holds tree changed) (hgrows : Grows tree changed) {node : Node}
    (hstat : tree.stat location = .ok node) : changed.stat location = .ok node := by
  obtain ⟨⟨⟩, hreach, hnode⟩ := exists_of_bind_eq_ok hstat
  rw [FileTree.stat, hgrows.checkReach hreach]
  split at hnode
  · next found hfound =>
    obtain rfl := Except.ok.inj hnode
    simp only [h _ _ hfound]
    rfl
  · contradiction

/-- Something is only added where nothing is. -/
lemma eq_put_of_add {node : Node} (h : tree.add location node = .ok changed) :
    tree.lookup location = none ∧ changed = tree.put location node := by
  obtain ⟨⟨⟩, -, h⟩ := exists_of_bind_eq_ok h
  split at h
  · contradiction
  · next hnone => exact ⟨hnone, (Except.ok.inj h).symm⟩

/-- The permissions of a file are set without touching its content. -/
lemma setMode_of_stat {content : Content} {old mode : Nat}
    (h : tree.stat location = .ok (.file content old)) :
    tree.setMode location mode = .ok (tree.put location (.file content mode)) := by
  rw [setMode, h]
  rfl

lemma lookup_of_stat {node : Node} (h : tree.stat location = .ok node) :
    checkReach tree location = .ok () ∧ tree.lookup location = some node := by
  obtain ⟨⟨⟩, hreach, h⟩ := exists_of_bind_eq_ok h
  split at h
  · next found hfound => exact ⟨hreach, by rw [hfound, Except.ok.inj h]⟩
  · contradiction

end FileTree

variable {host changed : Host} {path : String} {data : Bytes}

open FileTree (Grows Holds)

/-- Making directories takes nothing away. -/
lemma grows_of_makeAlong {tree grown : FileTree} {here : Location} {names : List String}
    (h : makeAlong tree here names = .ok grown) : Grows tree grown ∧ Holds tree grown := by
  induction names generalizing tree here with
  | nil =>
    obtain rfl := Except.ok.inj h
    exact ⟨.refl _, fun _ _ hnode => hnode⟩
  | cons name names ih =>
    obtain ⟨place, -, h⟩ := exists_of_bind_eq_ok h
    split at h
    · exact ih h
    · contradiction
    · obtain ⟨added, hadd, h⟩ := exists_of_bind_eq_ok h
      obtain ⟨hnone, rfl⟩ := FileTree.eq_put_of_add hadd
      have hnil : place ≠ [] := by
        rintro rfl
        simp [FileTree.lookup] at hnone
      obtain ⟨hgrows, hholds⟩ := ih h
      refine ⟨(Grows.put hnil (FileTree.free_of_none hnone) fun _ => Node.noConfusion).trans hgrows,
        fun location node hnode => hholds _ _ ?_⟩
      rw [FileTree.lookup_put _ _ hnil, if_neg]
      · exact hnode
      · rintro rfl
        rw [hnone] at hnode
        contradiction

lemma run_change {ε : Type} (step : Host → Except IoError Host) (failure : IoError → ε)
    (host : Host) : ((change step failure : Action ε Unit).run.run host : Except ε Unit × Host) =
      match step host with
      | .error cause => (.error (failure cause), host)
      | .ok changed => (.ok (), changed) := by
  rw [change, run_bind_get]
  cases step host <;> rfl

lemma run_bind_change {ε α : Type} (step : Host → Except IoError Host) (failure : IoError → ε)
    (next : Action ε α) (host : Host) :
    ((do change step failure; next : Action ε α).run.run host : Except ε α × Host) =
      match step host with
      | .error cause => (.error (failure cause), host)
      | .ok changed => next.run.run changed := by
  rw [ExceptT.run_bind, StateT.run_bind, run_change]
  cases step host <;> rfl

lemma run_tryChange {ε : Type} (step : Host → Except IoError Host) (host : Host) :
    ((tryChange step : Action ε Unit).run.run host : Except ε Unit × Host) =
      (.ok (), (step host).toOption.getD host) := by
  rw [tryChange, run_bind_get]
  cases step host <;> rfl

/-- The steps of storing a file. -/
lemma storeFile_eq (host : Host) (path : String) (data : Bytes) (executable : Bool) :
    host.storeFile path data executable =
      match host.makeParents path with
      | .error cause => (.error cause, host)
      | .ok made =>
        match made.deliver path (.plain data) with
        | .error cause => (.error cause, made)
        | .ok written =>
          if executable then
            match written.setMode path 0o755 with
            | .error cause => (.error cause, written)
            | .ok marked => (.ok (), marked)
          else (.ok (), written) := by
  change (store path data executable).run.run host = _
  rw [store, run_bind_change]
  cases host.makeParents path with
  | error cause => rfl
  | ok made =>
    simp only [run_bind_change]
    cases made.deliver path (.plain data) with
    | error cause => rfl
    | ok written =>
      cases executable with
      | false => rfl
      | true => exact run_change _ id written

/-- Only the path of a directory ends with a separator, and no file is written there. -/
lemma resolve_of_resolveTarget {place : Location} (h : host.resolveTarget path = .ok place) :
    host.resolve path = .ok place := by
  rw [resolveTarget] at h
  split at h
  · obtain ⟨_, -, hnone⟩ := exists_of_bind_eq_ok h
    contradiction
  · exact h

/-- A place that a file stands at, and that a path leads to. -/
structure Stands (host : Host) (path : String) (place : Location) (content : Content) (mode : Nat) :
    Prop where
  resolve : host.resolve path = .ok place
  stat : host.tree.stat place = .ok (.file content mode)

namespace Stands

variable {place : Location} {content : Content} {mode : Nat}

lemma fileAt? (h : host.Stands path place content mode) :
    host.fileAt? path = some (content.bytes, mode &&& 0o111 != 0) := by
  have hstat : host.stat path = .ok (.file content mode) := by
    rw [Host.stat, h.resolve]
    exact h.stat
  rw [Host.fileAt?, hstat]

lemma fetch (h : host.Stands path place content mode) : host.fetch path = .ok content := by
  rw [Host.fetch, h.resolve]
  change host.tree.read place = .ok content
  rw [FileTree.read, h.stat]
  rfl

/-- A file that is put where a path leads stands there. -/
lemma of_put (hresolve : host.resolve path = .ok place) (hnil : place ≠ [])
    (hfree : host.tree.Free place) (hreach : FileTree.checkReach host.tree place = .ok ()) :
    ({ host with tree := host.tree.put place (.file content mode) } : Host).Stands path place
      content mode :=
  ⟨(Grows.put hnil hfree fun _ => Node.noConfusion).resolve hresolve,
    FileTree.stat_put hnil hfree hreach⟩

/-- A file that is written goes where its path leads. -/
lemma of_deliver {written : Host} (h : host.deliver path content = .ok written) :
    ∃ place mode, written.Stands path place content mode := by
  obtain ⟨place, hresolve, h⟩ := exists_of_bind_eq_ok h
  obtain ⟨tree, hwrite, h⟩ := exists_of_bind_eq_ok h
  obtain ⟨hnil, hreach, hfree, mode, rfl⟩ := FileTree.exists_of_write hwrite
  obtain rfl := Except.ok.inj h
  exact ⟨place, mode, of_put (resolve_of_resolveTarget hresolve) hnil hfree hreach⟩

/-- A file whose permissions are set keeps its place and its content. -/
lemma of_setMode {marked : Host} {wanted : Nat} (h : host.Stands path place content mode)
    (hmark : host.setMode path wanted = .ok marked) :
    marked.Stands path place content wanted := by
  obtain ⟨hreach, hfile⟩ := FileTree.lookup_of_stat h.stat
  have hnil : place ≠ [] := by
    rintro rfl
    simp [FileTree.lookup] at hfile
  obtain ⟨found, hfound, hmark⟩ := exists_of_bind_eq_ok hmark
  rw [h.resolve] at hfound
  obtain rfl := Except.ok.inj hfound
  rw [FileTree.setMode_of_stat h.stat] at hmark
  obtain rfl := Except.ok.inj hmark
  exact of_put h.resolve hnil (FileTree.free_of_file hfile) hreach

end Stands

lemma exists_stands {file : Bytes × Bool} (h : host.fileAt? path = some file) :
    ∃ place content mode, host.Stands path place content mode := by
  rw [fileAt?] at h
  split at h
  · next content mode hstat =>
    obtain ⟨place, hresolve, hstat⟩ := exists_of_bind_eq_ok hstat
    exact ⟨place, content, mode, hresolve, hstat⟩
  · contradiction

/-- Making the directories above a path takes nothing away. -/
lemma Stands.of_makeParents {place : Location} {content : Content} {mode : Nat} {other : String}
    {made : Host} (h : host.Stands other place content mode)
    (hmade : host.makeParents path = .ok made) : made.Stands other place content mode := by
  have hrefused : ∀ (cause : IoError) (value : PUnit),
      (throw cause : Except IoError PUnit) ≠ .ok value := fun _ _ => nofun
  rw [makeParents, makeDirectories] at hmade
  split at hmade
  · obtain ⟨_, hthrow, -⟩ := exists_of_bind_eq_ok hmade
    exact absurd hthrow (hrefused _ _)
  · simp only at hmade
    split at hmade
    · obtain ⟨_, hthrow, -⟩ := exists_of_bind_eq_ok hmade
      exact absurd hthrow (hrefused _ _)
    · obtain ⟨tree, htree, hmade⟩ := exists_of_bind_eq_ok hmade
      obtain rfl := Except.ok.inj hmade
      obtain ⟨hgrows, hholds⟩ := grows_of_makeAlong htree
      exact ⟨hgrows.resolve h.resolve, hholds.stat hgrows h.stat⟩

/-- What is stored is found where it was stored. -/
theorem fileAt?_stored {executable : Bool}
    (h : host.storeFile path data executable = (.ok (), changed)) :
    ∃ mark, changed.fileAt? path = some (data, mark) ∧ (executable = true → mark = true) := by
  rw [storeFile_eq] at h
  split at h
  · simp at h
  · split at h
    · simp at h
    · next written hwritten =>
      obtain ⟨place, mode, hstands⟩ := Stands.of_deliver hwritten
      split at h
      · split at h
        · simp at h
        · next marked hmark =>
          obtain rfl := (Prod.mk.inj h).2
          exact ⟨_, (hstands.of_setMode hmark).fileAt?, fun _ => by decide⟩
      · next hplain =>
        obtain rfl := (Prod.mk.inj h).2
        exact ⟨_, hstands.fileAt?, fun hmark => absurd hmark hplain⟩

/-- When a file cannot be stored and no permissions are to be set, the files that there were are
still there. -/
theorem fileAt?_of_storeFile_error {cause : IoError}
    (h : host.storeFile path data false = (.error cause, changed)) {other : String}
    {file : Bytes × Bool} (hfile : host.fileAt? other = some file) :
    changed.fileAt? other = some file := by
  rw [storeFile_eq] at h
  split at h
  · obtain rfl := (Prod.mk.inj h).2
    exact hfile
  · next made hmade =>
    -- Writing is the last step here, so only directories were made when it fails.
    have hchanged : changed = made := by
      split at h
      · exact (Prod.mk.inj h).2.symm
      · simp at h
    subst hchanged
    obtain ⟨place, content, mode, hstands⟩ := exists_stands hfile
    rw [(hstands.of_makeParents hmade).fileAt?, ← hstands.fileAt?, hfile]

end Judge.Host
