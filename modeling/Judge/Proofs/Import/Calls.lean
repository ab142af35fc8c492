import Judge.Proofs.Archive.Received
import Judge.Proofs.Import.Outcome
import Judge.Proofs.Store.Record

/-!
The calls of an import. Whatever a store answers, an import touches the tests, the subtasks and the
record of its own problem only, it saves data for tests that it created, and what it writes comes
from the archive.
-/

namespace Judge.Archive.Import

open Decimal (int32 int64)
open Store (Call)
open Transfer (Sat sat_pure sat_throw sat_ofExcept sat_request)

/-- What an entry of an archive gives when it is opened. -/
def IsData (entries : List Entry) (kind : EntryKind) (source : Source) : Prop :=
  ∃ entry ∈ Content.holders entries kind, entry.opened = .ok source

/-- The calls of an import of an archive into a problem, given what holds of the ids that it was
given. -/
def Makes (entries : List Entry) (problem : Int) (assigned : Int → Prop) : Call → Prop
  | .orphanTests id | .deleteSubtasks id => id = problem
  | .createTest test => test.problemId = problem ∧ test.visibleId ∈ Content.testNumbers entries ∧
    test.score = Content.score entries test.visibleId
  | .saveInput id source => assigned id ∧ ∃ number, IsData entries (.input number) source
  | .saveOutput id source => assigned id ∧ ∃ number, IsData entries (.output number) source
  | .updateProblem id update =>
    id = problem ∧ ∃ settings, Content.settings entries = some settings ∧ update = settings.toUpdate
  | .createSubtask subtask => subtask.problemId = problem ∧
    (∃ groups group, Content.groups entries = some groups ∧
      (subtask.visibleId, group) ∈ groups.entries ∧ subtask.score = group.score) ∧
    ∀ id ∈ subtask.tests, assigned id
  | _ => False

/-- Values that give such ids. -/
def Assigns (assigned : Int → Prop) : (call : Call) → call.Value → Prop
  | .createTest _, id => assigned id
  | _, _ => True

section Steps

variable {entries : List Entry} {problem : Int} {assigned : Int → Prop}

lemma sat_openData {kind : EntryKind} {index : Nat}
    (hindex : Content.position entries kind = some index) :
    Sat (Makes entries problem assigned) (Assigns assigned) (IsData entries kind)
      (openData entries index) := by
  obtain ⟨entry, hentry, hkind⟩ := Content.getElem?_position hindex
  refine sat_ofExcept fun source hsource => ⟨entry, ?_, ?_⟩
  · exact Content.mem_holders.mpr ⟨List.mem_of_getElem? hentry, hkind⟩
  · rw [openAt, hentry] at hsource
    cases hopened : entry.opened with
    | error cause => simp [hopened, Except.map, Except.mapError] at hsource
    | ok opened => simpa [hopened, Except.map, Except.mapError] using hsource

lemma sat_createTests {numbers : List Int}
    (hnumbers : ∀ number ∈ numbers, number ∈ Content.testNumbers entries) :
    Sat (Makes entries problem assigned) (Assigns assigned)
      (fun created => ∀ e ∈ created, assigned e.2)
      (createTests entries problem
        (numbers.map fun number => (number, Content.files entries number))) := by
  induction numbers with
  | nil => exact sat_pure (by simp)
  | cons number numbers ih =>
    rw [List.map_cons]
    unfold createTests
    split
    · next i j hi hj =>
      refine (sat_request ⟨rfl, hnumbers number (by simp), rfl⟩ fun _ hid => hid).bind
        fun (id : Int) (hid : assigned id) => ?_
      refine (sat_openData hi).bind fun input hinput => ?_
      refine (sat_request ⟨hid, number, hinput⟩ fun _ _ => trivial).bind fun _ (_ : True) => ?_
      refine (sat_openData hj).bind fun output houtput => ?_
      refine (sat_request ⟨hid, number, houtput⟩ fun _ _ => trivial).bind fun _ (_ : True) => ?_
      refine (ih fun n hn => hnumbers n (by simp [hn])).bind fun created hcreated => sat_pure ?_
      intro e he
      rcases List.mem_cons.mp he with rfl | he
      · exact hid
      · exact hcreated e he
    · exact sat_throw _

lemma assigned_of_resolveTests {created : List (Int × Int)} {tests ids : List Int}
    (hcreated : ∀ e ∈ created, assigned e.2) (h : resolveTests created tests = .ok ids) :
    ∀ id ∈ ids, assigned id := by
  refine forall_mem_of_forall₂ (forall₂_of_mapM h) fun test id hid => ?_
  split at hid
  · next found hlookup =>
    obtain rfl := Except.ok.inj hid
    obtain ⟨front, rest, hsplit, -⟩ := List.lookup_eq_some_iff.mp hlookup
    exact hcreated (test, found) (by simp [hsplit])
  · contradiction

lemma sat_createSubtasks {created : List (Int × Int)} (hcreated : ∀ e ∈ created, assigned e.2)
    {groups : Table Group} (hgroups : Content.groups entries = some groups)
    {rest : List (Int × Group)} (hrest : ∀ g ∈ rest, g ∈ groups.entries) :
    Sat (Makes entries problem assigned) (Assigns assigned) (fun _ => True)
      (createSubtasks created problem rest) := by
  induction rest with
  | nil => exact sat_pure trivial
  | cons g rest ih =>
    obtain ⟨key, group⟩ := g
    unfold createSubtasks
    refine (sat_ofExcept fun ids hids => assigned_of_resolveTests hcreated hids).bind
      fun ids hids => ?_
    refine (sat_request ⟨rfl, ⟨groups, group, hgroups, hrest _ (by simp), rfl⟩, hids⟩
      fun _ _ => trivial).bind fun _ (_ : True) => ?_
    exact ih fun g hg => hrest g (by simp [hg])

lemma sat_settle {created : List (Int × Int)} (hcreated : ∀ e ∈ created, assigned e.2) :
    Sat (Makes entries problem assigned) (Assigns assigned) (fun _ => True)
      (settle created problem (Content.settings entries)) := by
  cases hsettings : Content.settings entries with
  | none => exact sat_pure trivial
  | some settings =>
    have hupdate : Sat (Makes entries problem assigned) (Assigns assigned) (fun _ => True)
        (updateProblem problem settings.toUpdate) := by
      rw [updateProblem]
      split
      · exact sat_pure trivial
      · exact (sat_request ⟨rfl, settings, hsettings, rfl⟩ fun _ _ => trivial).bind
          fun _ (_ : True) => sat_pure trivial
    have hreplace : Sat (Makes entries problem assigned) (Assigns assigned) (fun _ => True)
        (replaceSubtasks created problem settings.subtasks) := by
      cases hsubtasks : settings.subtasks with
      | none => exact sat_pure trivial
      | some groups =>
        have hgroups : Content.groups entries = some groups := by
          rw [Content.groups, hsettings, Option.bind_some, hsubtasks]
        have hdelete : Makes entries problem assigned (.deleteSubtasks problem) := rfl
        exact (sat_request hdelete fun _ _ => trivial).bind fun _ (_ : True) =>
          (sat_createSubtasks hcreated hgroups fun _ hg => hg).bind fun _ _ => sat_pure trivial
    exact hupdate.bind fun _ _ => hreplace.bind fun _ _ => sat_pure trivial

end Steps

variable {entries : List Entry} {problem : Int} {assigned : Int → Prop}

/-- An import makes such calls only, whatever it is answered. -/
theorem sat_importArchive (entries : List Entry) (problem : Int) (assigned : Int → Prop) :
    Sat (Makes entries problem assigned) (Assigns assigned) (fun _ => True)
      (importArchive entries problem) := by
  rw [importArchive]
  refine Transfer.Sat.bind (@sat_ofExcept _ _ _ (fun scan => prepare entries = .ok scan) _
    fun _ h => h) fun scan hprepare => ?_
  obtain ⟨htests, hsettings⟩ := tests_of_prepare hprepare
  rw [store_eq, htests, hsettings]
  have horphan : Makes entries problem assigned (.orphanTests problem) := rfl
  refine (sat_request horphan fun _ _ => trivial).bind fun _ (_ : True) => ?_
  exact (sat_createTests fun _ hnumber => hnumber).bind fun created hcreated => sat_settle hcreated

/-- Every position of a group is a number of 32 bits. -/
def Positioned (entries : List Entry) : Prop :=
  ∀ groups, Content.groups entries = some groups → ∀ key ∈ groups.keys, int32.contains key = true

lemma positioned_twoTests : Positioned twoTests := by
  have hkeys : (Content.groups twoTests).map Table.keys = some [1] := by decide +kernel
  intro groups hgroups
  have honly : groups.keys = [1] := by simpa [hgroups] using hkeys
  rw [honly]
  decide

lemma sized_toUpdate {settings : Properties} (h : settings.Received) : settings.toUpdate.Sized where
  memoryLimit limit hlimit := (h.memoryLimit limit hlimit).1
  defaultPoints points hpoints := (h.defaultPoints points hpoints).1
  sourceSize size hsize := (h.sourceSize size hsize).1

/-- The numbers in the calls of an import fit, if the ids do. -/
theorem Makes.sized {call : Call} (h : Makes entries problem assigned call)
    (hproblem : int64.contains problem = true)
    (hassigned : ∀ id, assigned id → int64.contains id = true)
    (hpositioned : Positioned entries) : call.Sized := by
  cases call with
  | orphanTests id | deleteSubtasks id =>
    obtain rfl : id = problem := h
    exact hproblem
  | createTest test =>
    obtain ⟨rfl, hnumber, hscore⟩ := h
    exact ⟨rfl, hproblem, Content.contains_of_mem_testNumbers hnumber,
      by rw [hscore]; exact Content.contains_score entries _⟩
  | saveInput id source | saveOutput id source => exact hassigned id h.1
  | updateProblem id update =>
    obtain ⟨rfl, settings, hsettings, rfl⟩ := h
    exact ⟨hproblem, sized_toUpdate (Content.received_settings hsettings)⟩
  | createSubtask subtask =>
    obtain ⟨rfl, ⟨groups, group, hgroups, hgroup, hscore⟩, hids⟩ := h
    obtain ⟨settings, hsettings, hsubtasks⟩ := Option.bind_eq_some_iff.mp hgroups
    have hreceived := (Content.received_settings hsettings).groups groups hsubtasks
    refine ⟨rfl, hproblem, hpositioned groups hgroups _ (List.mem_map_of_mem hgroup), ?_,
      fun id hid => hassigned id (hids id hid)⟩
    rw [hscore]
    exact (hreceived.2.2 group (List.mem_map.mpr ⟨_, hgroup, rfl⟩)).1
  | problem | saveProblem | tests | input | output | purgeData | subtasks => exact h.elim

end Judge.Archive.Import
