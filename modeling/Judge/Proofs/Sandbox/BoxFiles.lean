import Judge.Proofs.Host.Storing
import Judge.Proofs.Path
import Judge.Sandbox.Isolate

/-!
The files that paths of a box lead to. A path that names a file of the box leads below the directory of
the box on every host, and what `isolate` is told about the path is the way from that directory on. So
the file that a stream is written to is the one that is read back.
-/

namespace Judge.Host

variable {location : Location} {pieces : List (List Char)} {base path : String}

lemma follow_append (location : Location) (pieces more : List (List Char)) :
    follow location (pieces ++ more) = follow (follow location pieces) more := by
  fun_induction follow location pieces with
  | case1 location => rfl
  | case2 location rest ih => rw [List.cons_append, follow, ih]
  | case3 location rest ih => rw [List.cons_append, follow, ih]
  | case4 location rest ih => rw [List.cons_append, follow, ih]
  | case5 location name rest hempty hdot hup ih => rw [List.cons_append, follow, ih] <;> assumption

/-- The names among the pieces of a path. -/
def namesAmong (pieces : List (List Char)) : Location :=
  (pieces.filter fun piece => piece ≠ [] ∧ piece ≠ ['.']).map String.ofList

/-- Where nothing leads up, the names are gone along one by one. -/
lemma follow_of_down (h : ['.', '.'] ∉ pieces) :
    follow location pieces = location ++ namesAmong pieces := by
  fun_induction follow location pieces with
  | case1 location => simp [namesAmong]
  | case2 location rest ih => rw [ih (List.not_mem_of_not_mem_cons h)]; simp [namesAmong]
  | case3 location rest ih => rw [ih (List.not_mem_of_not_mem_cons h)]; simp [namesAmong]
  | case4 location rest ih => simp at h
  | case5 location name rest hempty hdot hup ih =>
    have hname : namesAmong (name :: rest) = String.ofList name :: namesAmong rest := by
      have hne : name ≠ [] := fun heq => hempty heq
      have hne' : name ≠ ['.'] := fun heq => hdot heq
      simp [namesAmong, hne, hne']
    rw [ih (List.not_mem_of_not_mem_cons h), hname, List.append_assoc, List.singleton_append]

lemma isAbsolute_append (rest : String) (h : base ≠ "") :
    Path.isAbsolute (base ++ rest) = Path.isAbsolute base := by
  have hne : base.toList ≠ [] := by simpa using h
  rw [Path.isAbsolute, Path.isAbsolute, String.toList_append, List.head?_append_of_ne_nil _ hne]

/-- A path leads on from where the part in front of a separator leads. -/
lemma locate_append (host : Host) (h : base ≠ "") {front rest : List Char} {more : String}
    (hfront : (base ++ more).toList = front ++ '/' :: rest) :
    host.locate (base ++ more) =
      follow (follow (if Path.isAbsolute base then [] else host.directory) (Text.splitAt '/' front))
        (Text.splitAt '/' rest) := by
  rw [locate, isAbsolute_append more h, hfront, Text.splitAt_append_cons, follow_append]

/-- A relative path leads on from where the path in front of it leads. -/
theorem locate_join (host : Host) (h : Path.isAbsolute path = false) :
    host.locate (Path.join base path) =
      follow (host.locate base) (Text.splitAt '/' path.toList) := by
  rw [Path.join, h, Bool.false_or]
  by_cases hempty : base = ""
  · subst hempty
    rw [if_pos (by simp), locate, h]
    rfl
  rw [if_neg (by simpa using hempty)]
  split
  · next hslash =>
    obtain ⟨front, hfront⟩ := List.getLast?_eq_some_iff.mp (beq_iff_eq.mp hslash)
    have hbase : host.locate base =
        follow (if Path.isAbsolute base then [] else host.directory) (Text.splitAt '/' front) := by
      rw [locate, hfront, Text.splitAt_append_cons, follow_append]
      rfl
    have hwhole : (base ++ path).toList = front ++ '/' :: path.toList := by simp [hfront]
    rw [hbase, locate_append host hempty hwhole]
  · have hwhole : (base ++ ("/" ++ path)).toList = base.toList ++ '/' :: path.toList := by simp
    rw [String.append_assoc, locate_append host hempty hwhole, locate]

/-- A path that leads down leads below where the path in front of it leads. -/
theorem exists_locate_join (h : Path.LeadsDown path.toList) (base : String) (host : Host) :
    ∃ names, names ≠ [] ∧ host.locate (Path.join base path) = host.locate base ++ names := by
  have hrelative : Path.isAbsolute path = false := by
    rw [Path.isAbsolute, beq_eq_false_iff_ne]
    exact h.relative
  obtain ⟨first, pieces, hsplit, hfirst⟩ := Path.exists_splitAt h.nonempty h.relative
  have hundotted : first ≠ ['.'] := by
    rintro rfl
    exact h.undotted (by rw [hsplit]; rfl)
  refine ⟨namesAmong (Text.splitAt '/' path.toList), ?_, ?_⟩
  · rw [hsplit]
    simp [namesAmong, hfirst, hundotted]
  · rw [locate_join host hrelative, follow_of_down h.down]

end Judge.Host

namespace Judge.Sandbox

section Front

variable {front text rest : List Char}

lemma dropFront?_eq_some_iff : dropFront? front text = some rest ↔ text = front ++ rest := by
  fun_induction dropFront? front text with
  | case1 text => simp [eq_comm]
  | case2 c front => simp
  | case3 c front text ih => rw [ih, List.cons_append, List.cons.injEq, and_iff_right rfl]
  | case4 c front d text hne => simp [Ne.symm hne]

lemma dropFront?_append (front more text : List Char) :
    (dropFront? front text).bind (dropFront? more) = dropFront? (front ++ more) text := by
  fun_induction dropFront? front text with
  | case1 text => rfl
  | case2 c front => rfl
  | case3 c front text ih => rw [ih, List.cons_append, dropFront?, if_pos rfl]
  | case4 c front d text hne => rw [List.cons_append, dropFront?, if_neg hne]; rfl

lemma dropSlashes_append (slashes : Nat) (h : text.head? ≠ some '/') :
    dropSlashes (List.replicate slashes '/' ++ text) = text := by
  induction slashes with
  | zero =>
    cases text with
    | nil => rfl
    | cons c text =>
      have hc : c ≠ '/' := by simpa using h
      exact List.dropWhile_cons_of_neg (by simpa using hc)
  | succ slashes ih => exact ih

lemma exists_eq_append_dropSlashes (text : List Char) :
    ∃ slashes, text = List.replicate slashes '/' ++ dropSlashes text ∧
      (dropSlashes text).head? ≠ some '/' := by
  induction text with
  | nil => exact ⟨0, rfl, by simp [dropSlashes]⟩
  | cons c text ih =>
    by_cases hc : c = '/'
    · subst hc
      obtain ⟨slashes, htext, hhead⟩ := ih
      exact ⟨slashes + 1, congrArg _ htext, hhead⟩
    · have hdrop : dropSlashes (c :: text) = c :: text :=
        List.dropWhile_cons_of_neg (by simpa using hc)
      rw [hdrop]
      exact ⟨0, rfl, by simpa using hc⟩

end Front

section Files

variable {boxDirectory path target : String} {inner : List Char}

/-- `/box/` and any further separators in front of a path that leads down. -/
structure NamesFile (path : String) (inner : List Char) : Prop where
  spelled : ∃ slashes, path.toList = "/box/".toList ++ (List.replicate slashes '/' ++ inner)
  leadsDown : Path.LeadsDown inner

lemma namesFile_iff : NamesFile path inner ↔ ∃ rest,
    dropFront? (boxRoot.toList ++ ['/']) path.toList = some rest ∧ dropSlashes rest = inner ∧
      Path.LeadsDown inner := by
  have hfront : boxRoot.toList ++ ['/'] = "/box/".toList := rfl
  simp only [hfront, dropFront?_eq_some_iff]
  constructor
  · rintro ⟨⟨slashes, hspelled⟩, hdown⟩
    exact ⟨_, hspelled, dropSlashes_append slashes hdown.relative, hdown⟩
  · rintro ⟨rest, hpath, rfl, hdown⟩
    obtain ⟨slashes, hrest, -⟩ := exists_eq_append_dropSlashes rest
    exact ⟨⟨slashes, hrest ▸ hpath⟩, hdown⟩

theorem fileInBox?_eq_ok_iff : fileInBox? path.toList = .ok inner ↔ NamesFile path inner := by
  rw [namesFile_iff, fileInBox?, dropFront?_append]
  cases dropFront? (boxRoot.toList ++ ['/']) path.toList with
  | none => simp
  | some rest =>
    obtain ⟨-, -, hrelative⟩ := exists_eq_append_dropSlashes rest
    have hdown := Path.leadsDown_iff hrelative
    simp only [Option.some.injEq, exists_eq_left', List.isEmpty_iff]
    split
    · next hempty =>
      simp only [reduceCtorEq, false_iff, not_and]
      rintro rfl h
      exact h.nonempty hempty
    · next hnonempty =>
      split
      · next hall =>
        rw [Except.ok.injEq, iff_self_and]
        rintro rfl
        refine hdown.mpr ⟨hnonempty, fun part hpart => ?_⟩
        have hnormal := List.all_eq_true.mp hall part hpart
        cases part with
        | normal name => exact ⟨name, rfl⟩
        | root | current | parent => contradiction
      · next hall =>
        simp only [reduceCtorEq, false_iff, not_and]
        rintro rfl h
        refine hall (List.all_eq_true.mpr fun part hpart => ?_)
        obtain ⟨name, rfl⟩ := (hdown.mp h).2 part hpart
        rfl

/-- What `isolate` is told about a file of the box is the way to it from the root of the box. -/
lemma NamesFile.relativeToBox (h : NamesFile path inner) :
    relativeToBox path = String.ofList inner := by
  obtain ⟨⟨slashes, hspelled⟩, hdown⟩ := h
  have hroot : dropFront? boxRoot.toList path.toList =
      some (List.replicate (slashes + 1) '/' ++ inner) := by
    rw [dropFront?_eq_some_iff, hspelled]
    rfl
  rw [Sandbox.relativeToBox, hroot]
  exact congrArg String.ofList (dropSlashes_append (slashes + 1) hdown.relative)

/-- The options of `isolate` for the streams that a configuration leads through a file. -/
inductive Redirected (config : RunConfig) (path : String) : String → Prop
  | input (h : config.input = some path) : Redirected config path "-i"
  | output (h : config.output = .file path) : Redirected config path "-o"
  | errors (h : config.errors = .file path) (hown : config.mergeErrors = false) :
    Redirected config path "-r"

lemma Redirected.isInfix {config : RunConfig} {option : String} (h : Redirected config path option)
    (id : Nat) (account : String) (command : List String) :
    [option, Sandbox.relativeToBox path] <:+: IsolateBox.runArguments id account command config := by
  have hstreams : [option, Sandbox.relativeToBox path] <:+: IsolateBox.streamArguments config := by
    rw [IsolateBox.streamArguments]
    cases h with
    | input h =>
      rw [h]
      exact ⟨[], _, (List.append_assoc _ _ _).symm⟩
    | output h =>
      rw [h]
      exact ⟨_, _, rfl⟩
    | errors h hown =>
      rw [h, hown]
      exact ⟨_, [], List.append_nil _⟩
  exact hstreams.trans ⟨_, ["--run", "--"] ++ command, (List.append_assoc _ _ _).symm⟩

lemma run_onHost {α : Type} (action : Host.Action Error α) (w : World) :
    (World.onHost action).run.run w =
      ((action.run.run w.host).1, { w with host := (action.run.run w.host).2 }) := rfl

/-- What reading a file answers, and that it changes nothing. -/
lemma run_fetch {box : BoxDirectory} (hplace : hostPath box.path path = .ok target) (host : Host) :
    (box.fetch path).run.run host =
      (((host.fetch target).map Host.Content.bytes).mapError fun _ => .cannotRead path box.id, host) := by
  have hplaced : (box.place path).run.run host = (.ok target, host) := congrArg (·, host) hplace
  rw [BoxDirectory.fetch, run_bind_of_ok hplaced, run_bind_get]
  cases host.fetch target <;> rfl

/-- A box that was not handed back reads the file on the host. -/
lemma perform_fetch {box : IsolateBox} (hlive : box.released = false)
    (hplace : hostPath box.path path = .ok target) (cancelled : Bool) (w : World) :
    (box.perform cancelled (.fetch path)).run w =
      ((((w.host.fetch target).map Host.Content.bytes).mapError fun _ => .cannotRead path box.id, box),
        w) := by
  have hdirectory : hostPath box.directory.path path = .ok target := hplace
  rw [IsolateBox.perform, IsolateBox.live, hlive, StateT.run_bind, if_neg Bool.false_ne_true,
    run_onHost, run_fetch hdirectory]
  rfl

/-- What holds of the place on the host of a file of a box. -/
structure InBox (boxDirectory path target : String) : Prop where
  /-- It is where the path that `isolate` is told leads from the directory of the box. -/
  joined : target = Path.join boxDirectory (relativeToBox path)
  /-- On every host it is below that directory. -/
  below : ∀ host : Host, ∃ names, names ≠ [] ∧ host.locate target = host.locate boxDirectory ++ names
  /-- What `isolate` is told for a stream that goes through the file is relative. -/
  relative : Path.isAbsolute (relativeToBox path) = false
  redirected : ∀ config option, Redirected config path option → ∀ id account command,
    [option, relativeToBox path] <:+: IsolateBox.runArguments id account command config
  /-- A box that was not handed back reads the file to which that argument leads, -/
  read : ∀ (box : IsolateBox) (w : World) (cancelled : Bool), box.path = boxDirectory →
    box.released = false → (box.perform cancelled (.fetch path)).run w =
      ((((w.host.fetch (Path.join boxDirectory (relativeToBox path))).map
        Host.Content.bytes).mapError fun _ => .cannotRead path box.id, box), w)
  /-- and so what was written there. -/
  readBack : ∀ (box : IsolateBox) (before : Host) (content : Host.Content) (w : World)
    (cancelled : Bool), box.path = boxDirectory → box.released = false →
    before.deliver (Path.join boxDirectory (relativeToBox path)) content = .ok w.host →
      (box.perform cancelled (.fetch path)).run w = ((.ok content.bytes, box), w)

lemma hostPath_eq_ok_iff : hostPath boxDirectory path = .ok target ↔
    ∃ inner, NamesFile path inner ∧ Path.join boxDirectory (String.ofList inner) = target := by
  constructor
  · intro h
    obtain ⟨inner, hinner, hjoin⟩ := exists_of_map_eq_ok h
    exact ⟨inner, fileInBox?_eq_ok_iff.mp hinner, hjoin⟩
  · rintro ⟨inner, hinner, rfl⟩
    rw [hostPath, fileInBox?_eq_ok_iff.mpr hinner]
    rfl

/-- A path leads to a place on the host if it names a file of the box, and only then, and that place
is in the box. -/
theorem hostPath_inBox (boxDirectory path : String) :
    ((∃ target, hostPath boxDirectory path = .ok target) ↔ ∃ inner, NamesFile path inner) ∧
      ∀ target, hostPath boxDirectory path = .ok target → InBox boxDirectory path target := by
  refine ⟨⟨fun ⟨target, h⟩ => ?_, fun ⟨inner, h⟩ => ⟨_, hostPath_eq_ok_iff.mpr ⟨inner, h, rfl⟩⟩⟩, ?_⟩
  · obtain ⟨inner, hinner, -⟩ := hostPath_eq_ok_iff.mp h
    exact ⟨inner, hinner⟩
  intro target htarget
  obtain ⟨inner, hinner, hjoin⟩ := hostPath_eq_ok_iff.mp htarget
  have hdown : Path.LeadsDown (String.ofList inner).toList := by
    rw [String.toList_ofList]
    exact hinner.leadsDown
  rw [← hinner.relativeToBox] at hdown hjoin
  have hread : ∀ (box : IsolateBox) (w : World) (cancelled : Bool), box.path = boxDirectory →
      box.released = false → (box.perform cancelled (.fetch path)).run w =
        ((((w.host.fetch target).map Host.Content.bytes).mapError fun _ => .cannotRead path box.id,
          box), w) := by
    rintro box w cancelled rfl hlive
    exact perform_fetch hlive htarget cancelled w
  exact {
    joined := hjoin.symm
    below := hjoin ▸ Host.exists_locate_join hdown boxDirectory
    relative := by
      rw [Path.isAbsolute, beq_eq_false_iff_ne]
      exact hdown.relative
    redirected := fun _ _ h => h.isInfix
    read := hjoin.symm ▸ hread
    readBack := by
      intro box before content w cancelled hpath hlive hwrite
      obtain ⟨place, mode, hstands⟩ := Host.Stands.of_deliver hwrite
      rw [hread box w cancelled hpath hlive, ← hjoin, hstands.fetch]
      rfl }

/-- Further separators and dots between names lead nowhere else. -/
theorem hostPath_inBox_dotted :
    hostPath "/tmp/box-3" "/box//sub/./x.in/" = .ok "/tmp/box-3/sub/./x.in/" ∧
      InBox "/tmp/box-3" "/box//sub/./x.in/" "/tmp/box-3/sub/./x.in/" :=
  ⟨rfl, (hostPath_inBox "/tmp/box-3" "/box//sub/./x.in/").2 _ rfl⟩

end Files

end Judge.Sandbox
