import Judge.Proofs.Json.Number

/-!
Reading undoes writing: lists and records are read back item by item, each item up to what comes
after it, and a text that holds one value is read as that value.
-/

namespace Judge.Json

variable {rest : List Char} {reading : Reading}

theorem reads_bool (value : Bool) : Reads (.bool value) (.bool value) := by
  intro level
  cases value with
  | true =>
    refine ⟨⟨'t', _, rfl, by decide⟩, fun fuel rest hfuel _ => ?_⟩
    have hroom : 12 ≤ fuel := hfuel
    obtain ⟨fuel, rfl⟩ := Nat.exists_eq_add_of_le' (show 1 ≤ fuel by omega)
    rfl
  | false =>
    refine ⟨⟨'f', _, rfl, by decide⟩, fun fuel rest hfuel _ => ?_⟩
    have hroom : 15 ≤ fuel := hfuel
    obtain ⟨fuel, rfl⟩ := Nat.exists_eq_add_of_le' (show 1 ≤ fuel by omega)
    rfl

theorem reads_text (value : String) : Reads (.text value) (.text (some value.toList)) := by
  intro level
  obtain ⟨body, hbody, hread⟩ := readText_writeText value.toList
  rw [write, hbody]
  refine ⟨⟨_, body, rfl, by decide⟩, fun fuel rest hfuel _ => ?_⟩
  rw [List.length_cons] at hfuel
  obtain ⟨fuel, rfl⟩ := Nat.exists_eq_add_of_le' (show 1 ≤ fuel by omega)
  rw [List.cons_append, readValue, skipBlanks_cons (by decide)]
  simp only [hread rest]

/-- What comes after an item: a new line, or a comma and a new line. -/
lemma closes_newLine (level : Nat) (rest : List Char) : Closes (newLine level ++ rest) :=
  closes_cons (by decide) _

/-! ### Lists -/

lemma wire_writeItems_cons (level : Nat) (item : Value) (items : List Value) :
    wire (writeItems level (item :: items)) =
      ',' :: (newLine level ++ (wire (write level item) ++ wire (writeItems level items))) := by
  rw [writeItems, List.cons_append, List.cons_append, wire_cons_ascii (by decide), wire_append,
    wire_append, wire_newLine, List.append_assoc]

lemma closes_writeItems (level lower : Nat) (items : List Value) (rest : List Char) :
    Closes (wire (writeItems level items) ++ (newLine lower ++ rest)) := by
  cases items with
  | nil => exact closes_newLine lower rest
  | cons item items =>
    rw [wire_writeItems_cons]
    exact closes_cons (by decide) _

/-- An item is read up to what comes after it. -/
lemma readItem_written (level fuel : Nat) {item : Value} (h : Reads item reading)
    (hfuel : 3 * (wire (write level item)).length ≤ fuel) (hrest : Closes rest) :
    readItem (fuel + 1) (wire (write level item) ++ rest) =
      (let (items, stop, rest) := readItems fuel false rest
      (reading :: items, stop, rest)) := by
  rw [readItem, (h level).reads fuel rest hfuel hrest]

/-- The items after the first one are read up to the end of the list. -/
lemma readItems_written {items : List Value} {readings : List Reading}
    (h : List.Forall₂ Reads items readings) (level lower : Nat) (rest : List Char) {fuel : Nat}
    (hfuel : 3 * (wire (writeItems level items)).length < fuel) :
    readItems fuel false (wire (writeItems level items) ++ (newLine lower ++ ']' :: rest)) =
      (readings, none, some rest) := by
  induction h generalizing fuel with
  | nil =>
    obtain ⟨fuel, rfl⟩ := Nat.exists_eq_add_of_le' (show 1 ≤ fuel by omega)
    rw [writeItems, wire_nil, List.nil_append, readItems, skipBlanks_newLine]
    rfl
  | @cons item reading items readings hitem _ ih =>
    rw [wire_writeItems_cons, List.length_cons, List.length_append, List.length_append] at hfuel
    -- Each character is worth three steps, so the comma pays for both steps to its item.
    obtain ⟨fuel, rfl⟩ := Nat.exists_eq_add_of_le' (show 2 ≤ fuel by omega)
    obtain ⟨c, body, hbody, hc⟩ := (hitem level).starts
    have hskip : ∀ after : List Char, skipBlanks (newLine level ++
        (wire (write level item) ++ after)) = c :: (body ++ after) := by
      intro after
      rw [skipBlanks_newLine, hbody, List.cons_append, skipBlanks_cons hc]
    -- No value starts with a closing bracket, so the list goes on.
    have hopen : c ≠ ']' := by
      rintro rfl
      exact absurd hc (by decide)
    rw [wire_writeItems_cons, List.cons_append, List.append_assoc, List.append_assoc, readItems,
      skipBlanks_cons (by decide)]
    simp only [hskip, show (',' : Char) ≠ ']' by decide, Bool.false_eq_true, if_false, if_true]
    have hclose : Closes (wire (writeItems level items) ++ (newLine lower ++ ']' :: rest)) :=
      closes_writeItems level lower items _
    have hread := readItem_written level fuel hitem (by omega) hclose
    rw [ih (by omega), hbody, List.cons_append] at hread
    split
    · contradiction
    · next heq => exact absurd (List.cons.inj heq).1 hopen
    · exact hread

lemma readItems_first {c : Char} (hc : starts c = true) (fuel level : Nat) (rest : List Char) :
    readItems (fuel + 1) true (newLine level ++ c :: rest) = readItem fuel (c :: rest) := by
  have hopen : c ≠ ']' := by
    rintro rfl
    exact absurd hc (by decide)
  rw [readItems, skipBlanks_newLine, skipBlanks_cons hc]
  simp only [hopen, if_false, if_true]

lemma readValue_list (fuel : Nat) (text : List Char) :
    readValue (fuel + 1) ('[' :: text) =
      (let (items, stop, rest) := readItems fuel true text
      (.list items stop, rest)) := rfl

theorem reads_list {items : List Value} {readings : List Reading}
    (h : List.Forall₂ Reads items readings) : Reads (.list items) (.list readings none) := by
  intro level
  cases h with
  | nil =>
    rw [write]
    refine ⟨⟨'[', _, rfl, by decide⟩, fun fuel rest hfuel _ => ?_⟩
    have hroom : 6 ≤ fuel := hfuel
    obtain ⟨fuel, rfl⟩ := Nat.exists_eq_add_of_le' (show 2 ≤ fuel by omega)
    rfl
  | @cons item reading items readings hitem hitems =>
    have hwire : wire (write level (.list (item :: items))) =
        '[' :: (newLine (level + 1) ++ (wire (write (level + 1) item) ++
          (wire (writeItems (level + 1) items) ++ (newLine level ++ [']'])))) := by
      rw [write, List.cons_append, List.cons_append, List.cons_append, List.cons_append,
        wire_cons_ascii (by decide)]
      simp only [wire_append, wire_newLine, List.append_assoc]
      rfl
    obtain ⟨c, body, hbody, hc⟩ := (hitem (level + 1)).starts
    rw [hwire]
    refine ⟨⟨'[', _, rfl, by decide⟩, fun fuel rest hfuel _ => ?_⟩
    simp only [List.length_cons, List.length_append] at hfuel
    obtain ⟨fuel, rfl⟩ := Nat.exists_eq_add_of_le' (show 3 ≤ fuel by omega)
    have hread := readItem_written (level + 1) fuel hitem (by omega)
      (closes_writeItems (level + 1) level items (']' :: rest))
    rw [readItems_written hitems (level + 1) level rest (by omega), hbody, List.cons_append] at hread
    have hfirst := readItems_first hc (fuel + 1) (level + 1)
      (body ++ (wire (writeItems (level + 1) items) ++ (newLine level ++ ']' :: rest)))
    simp only [List.cons_append, List.append_assoc, List.nil_append, hbody]
    rw [readValue_list, hfirst, hread]

/-! ### Records -/

/-- A member is read back: its key, and its value. -/
def ReadsMember (member : String × Value) (read : Option (List Char) × Reading) : Prop :=
  read.1 = some member.1.toList ∧ Reads member.2 read.2

lemma wire_member (level : Nat) (key : String) (value : Value) (rest : List Char) :
    wire (writeText key.toList ++ ':' :: ' ' :: (write level value ++ rest)) =
      wire (writeText key.toList) ++ (':' :: ' ' :: (wire (write level value) ++ wire rest)) := by
  rw [wire_append, wire_cons_ascii (by decide), wire_cons_ascii (by decide), wire_append]

lemma wire_writeMembers_cons (level : Nat) (key : String) (value : Value)
    (members : List (String × Value)) :
    wire (writeMembers level ((key, value) :: members)) =
      ',' :: (newLine level ++ (wire (writeText key.toList) ++
        (':' :: ' ' :: (wire (write level value) ++ wire (writeMembers level members))))) := by
  rw [writeMembers]
  simp only [List.cons_append, List.append_assoc, List.nil_append]
  rw [wire_cons_ascii (by decide), wire_append, wire_newLine, wire_member]

lemma closes_writeMembers (level lower : Nat) (members : List (String × Value))
    (rest : List Char) : Closes (wire (writeMembers level members) ++ (newLine lower ++ rest)) := by
  cases members with
  | nil => exact closes_newLine lower rest
  | cons member members =>
    rw [wire_writeMembers_cons]
    exact closes_cons (by decide) _

/-- A member is read up to what comes after it. -/
lemma readMember_written (level fuel : Nat) {member : String × Value}
    {read : Option (List Char) × Reading} (h : ReadsMember member read)
    (hfuel : 3 * (wire (write level member.2)).length ≤ fuel) (hrest : Closes rest) :
    readMember (fuel + 1) (wire (writeText member.1.toList) ++
        (':' :: ' ' :: (wire (write level member.2) ++ rest))) =
      (let (members, stop, rest) := readMembers fuel false rest
      (read :: members, stop, rest)) := by
  obtain ⟨key, value⟩ := member
  obtain ⟨_, reading⟩ := read
  obtain ⟨rfl, hvalue⟩ := h
  obtain ⟨body, hbody, htext⟩ := readText_writeText key.toList
  have hblank : readValue fuel (' ' :: (wire (write level value) ++ rest)) =
      readValue fuel (wire (write level value) ++ rest) := by
    cases fuel <;> rfl
  rw [hbody, List.cons_append, readMember, if_pos rfl, htext]
  simp only [skipBlanks_cons (c := ':') (by decide), hblank,
    (hvalue level).reads fuel rest hfuel hrest]

lemma readMembers_written {members : List (String × Value)}
    {readings : List (Option (List Char) × Reading)}
    (h : List.Forall₂ ReadsMember members readings) (level lower : Nat) (rest : List Char)
    {fuel : Nat} (hfuel : 3 * (wire (writeMembers level members)).length < fuel) :
    readMembers fuel false (wire (writeMembers level members) ++ (newLine lower ++ '\x7d' :: rest)) =
      (readings, none, some rest) := by
  induction h generalizing fuel with
  | nil =>
    obtain ⟨fuel, rfl⟩ := Nat.exists_eq_add_of_le' (show 1 ≤ fuel by omega)
    rw [writeMembers, wire_nil, List.nil_append, readMembers, skipBlanks_newLine]
    rfl
  | @cons member read members readings hmember _ ih =>
    obtain ⟨key, value⟩ := member
    rw [wire_writeMembers_cons] at hfuel
    simp only [List.length_cons, List.length_append] at hfuel
    obtain ⟨fuel, rfl⟩ := Nat.exists_eq_add_of_le' (show 2 ≤ fuel by omega)
    have hclose : Closes (wire (writeMembers level members) ++ (newLine lower ++ '\x7d' :: rest)) :=
      closes_writeMembers level lower members _
    have hread := readMember_written level fuel hmember (by simp only; omega) hclose
    rw [ih (by omega)] at hread
    obtain ⟨body, hbody, -⟩ := readText_writeText key.toList
    have hskip : ∀ after : List Char, skipBlanks (newLine level ++
        (wire (writeText key.toList) ++ after)) = wire (writeText key.toList) ++ after := by
      intro after
      rw [skipBlanks_newLine, hbody, List.cons_append, skipBlanks_cons (by decide)]
    rw [wire_writeMembers_cons, List.cons_append, readMembers, skipBlanks_cons (by decide)]
    simp only [List.append_assoc, List.cons_append, hskip, show (',' : Char) ≠ '\x7d' by decide,
      Bool.false_eq_true, if_false, if_true, hread]
    rfl

lemma readMembers_first (fuel level : Nat) (rest : List Char) :
    readMembers (fuel + 1) true (newLine level ++ '\x22' :: rest) =
      readMember fuel ('\x22' :: rest) := by
  rw [readMembers, skipBlanks_newLine, skipBlanks_cons (by decide)]
  rfl

lemma readValue_record (fuel : Nat) (text : List Char) :
    readValue (fuel + 1) ('\x7b' :: text) =
      (let (members, stop, rest) := readMembers fuel true text
      (.record members stop, rest)) := rfl

theorem reads_record {members : List (String × Value)}
    {readings : List (Option (List Char) × Reading)}
    (h : List.Forall₂ ReadsMember members readings) :
    Reads (.record members) (.record readings none) := by
  intro level
  cases h with
  | nil =>
    rw [write]
    refine ⟨⟨'\x7b', _, rfl, by decide⟩, fun fuel rest hfuel _ => ?_⟩
    have hroom : 6 ≤ fuel := hfuel
    obtain ⟨fuel, rfl⟩ := Nat.exists_eq_add_of_le' (show 2 ≤ fuel by omega)
    rfl
  | @cons member read members readings hmember hmembers =>
    obtain ⟨key, value⟩ := member
    have hwire : wire (write level (.record ((key, value) :: members))) =
        '\x7b' :: (newLine (level + 1) ++ (wire (writeText key.toList) ++
          (':' :: ' ' :: (wire (write (level + 1) value) ++
            (wire (writeMembers (level + 1) members) ++ (newLine level ++ ['\x7d'])))))) := by
      rw [write]
      simp only [List.cons_append, List.append_assoc, List.nil_append]
      rw [wire_cons_ascii (by decide), wire_append, wire_newLine, wire_member, wire_append,
        wire_append, wire_newLine]
      rfl
    obtain ⟨body, hbody, -⟩ := readText_writeText key.toList
    rw [hwire]
    refine ⟨⟨'\x7b', _, rfl, by decide⟩, fun fuel rest hfuel _ => ?_⟩
    simp only [List.length_cons, List.length_append] at hfuel
    obtain ⟨fuel, rfl⟩ := Nat.exists_eq_add_of_le' (show 3 ≤ fuel by omega)
    have hread := readMember_written (level + 1) fuel hmember
      (by simp only; omega) (closes_writeMembers (level + 1) level members ('\x7d' :: rest))
    rw [readMembers_written hmembers (level + 1) level rest (by omega), hbody,
      List.cons_append] at hread
    have hfirst := readMembers_first (fuel + 1) (level + 1) (body ++ (':' :: ' ' ::
      (wire (write (level + 1) value) ++
        (wire (writeMembers (level + 1) members) ++ (newLine level ++ '\x7d' :: rest)))))
    simp only [List.cons_append, List.append_assoc, List.nil_append, hbody]
    rw [readValue_record, hfirst, hread]

/-! ### Decoding -/

variable {α β : Type}

/-- A value is decoded from the text that it is written as exactly as from its reading. -/
theorem decode_write (decoder : Decoder α) {value : Value} (h : Reads value reading) :
    decode decoder (Utf8.encode (write 0 value)) = decoder reading := by
  have hread : read (Utf8.encode (write 0 value)) = (reading, some []) := by
    have hreads := (h 0).reads (3 * (Utf8.encode (write 0 value)).length + 3) [] (by simp [wire])
      closes_nil
    rw [List.append_nil] at hreads
    exact hreads
  simp only [decode, hread]
  cases decoder reading with
  | error cause => rfl
  | ok value => rfl

/-- A value is written so that a decoder takes something out of it wherever it stands. -/
def Holds (decoder : Decoder α) (value : Value) (taken : α) : Prop :=
  ∃ reading, Reads value reading ∧ decoder reading = .ok taken

lemma Holds.decode_write {decoder : Decoder α} {value : Value} {taken : α}
    (h : Holds decoder value taken) :
    decode decoder (Utf8.encode (write 0 value)) = .ok taken := by
  obtain ⟨reading, hreads, htaken⟩ := h
  rw [Json.decode_write decoder hreads, htaken]

lemma holds_int {bounds : Decimal.Bounds} {value : Int} (h : bounds.contains value = true)
    (hfits : Decimal.int64.contains value = true) : Holds (asInt bounds) (.int value) value :=
  ⟨_, reads_int value, asInt_numberOf h hfits⟩

lemma holds_bool (value : Bool) : Holds asBool (.bool value) value := ⟨_, reads_bool value, rfl⟩

lemma holds_text (value : String) : Holds asText (.text value) value :=
  ⟨_, reads_text value, by rw [asText, String.ofList_toList]⟩

lemma holds_real {value : Decimal.Binary64} (h : Recordable value) :
    Holds asReal (.real value) value := by
  obtain ⟨n, hreads, htaken⟩ := reads_real h
  exact ⟨_, hreads, htaken⟩

lemma holds_list {item : Decoder α} {toValue : α → Value} {values : List α}
    (h : ∀ value ∈ values, Holds item (toValue value) value) :
    Holds (asList item) (.list (values.map toValue)) values := by
  have hreadings : ∃ readings, List.Forall₂ Reads (values.map toValue) readings ∧
      readings.mapM item = .ok values := by
    induction values with
    | nil => exact ⟨[], .nil, rfl⟩
    | cons value values ih =>
      obtain ⟨reading, hreads, htaken⟩ := h value (by simp)
      obtain ⟨readings, hall, hmap⟩ := ih fun other hother => h other (by simp [hother])
      refine ⟨reading :: readings, .cons hreads hall, ?_⟩
      rw [List.mapM_cons, htaken, hmap]
      rfl
  obtain ⟨readings, hreads, hmap⟩ := hreadings
  refine ⟨_, reads_list hreads, ?_⟩
  simp only [asList, hmap]
  rfl

lemma Holds.map {decoder : Decoder α} {value : Value} {taken : α} (h : Holds decoder value taken)
    (f : α → β) : Holds (fun reading => do return f (← decoder reading)) value (f taken) := by
  obtain ⟨reading, hreads, htaken⟩ := h
  refine ⟨reading, hreads, ?_⟩
  simp only [htaken]
  rfl

/-- The members of a record are the fields in their order, and each is put into what the fields
before it made. -/
inductive Fills : List (RecordField β) → β → List (String × Value) → β → Prop
  | nil {done : β} : Fills [] done [] done
  | cons {field : RecordField β} {fields : List (RecordField β)} {start next done : β}
      {value : Value} {members : List (String × Value)} (put : Holds (field.put start) value next)
      (rest : Fills fields next members done) :
      Fills (field :: fields) start ((field.name, value) :: members) done

/-- A field is found by its name if no field before it has the name. -/
lemma find?_field {before after : List (RecordField β)} {field : RecordField β}
    (h : ((before ++ field :: after).map (·.name)).Nodup) :
    (before ++ field :: after).find? (fun other => other.name.toList == field.name.toList) =
      some field := by
  rw [List.map_append, List.nodup_append] at h
  obtain ⟨-, -, hdisjoint⟩ := h
  have hbefore : before.find? (fun other => other.name.toList == field.name.toList) = none := by
    rw [List.find?_eq_none]
    intro other hother heq
    have hname : other.name = field.name := String.toList_inj.mp (by simpa using heq)
    exact hdisjoint other.name (List.mem_map_of_mem hother) field.name (by simp) hname
  rw [List.find?_append, hbefore, Option.none_or, List.find?_cons_of_pos (by simp)]

/-- Members that fill the fields are taken one by one. -/
lemma takeMembers_of_fills {before fields : List (RecordField β)} {start done : β}
    {members : List (String × Value)} (h : Fills fields start members done)
    (hnames : ((before ++ fields).map (·.name)).Nodup) :
    ∃ readings, List.Forall₂ ReadsMember members readings ∧
      takeMembers (before ++ fields) (before.map (·.name)).reverse start readings =
        .ok (((before ++ fields).map (·.name)).reverse, done) := by
  induction h generalizing before with
  | nil => exact ⟨[], .nil, by rw [List.append_nil]; rfl⟩
  | @cons field fields start next done value members put rest ih =>
    obtain ⟨reading, hreads, hput⟩ := put
    obtain ⟨readings, hall, htake⟩ := @ih (before ++ [field]) (by simpa using hnames)
    refine ⟨(some field.name.toList, reading) :: readings, .cons ⟨rfl, hreads⟩ hall, ?_⟩
    have hnew : ((before.map (·.name)).reverse.contains field.name) = false := by
      rw [List.map_append, List.nodup_append] at hnames
      rw [Bool.eq_false_iff, Ne, List.contains_iff_mem, List.mem_reverse]
      intro hmem
      exact hnames.2.2 _ hmem field.name (by simp) rfl
    rw [takeMembers, find?_field hnames]
    simp only [hnew, Bool.false_eq_true, if_false, hput]
    have hnext : before.map (·.name) ++ [field.name] = (before ++ [field]).map (·.name) := by simp
    rw [show field.name :: (before.map (·.name)).reverse =
      (before.map (·.name) ++ [field.name]).reverse by simp, hnext]
    rw [List.append_assoc] at htake
    exact htake

/-- A record whose members are the fields in their order is decoded field by field. -/
theorem holds_record {fields : List (RecordField β)} {start done : β}
    {members : List (String × Value)} (hnames : (fields.map (·.name)).Nodup)
    (h : Fills fields start members done) :
    Holds (asRecord fields start) (.record members) done := by
  obtain ⟨readings, hall, htake⟩ := @takeMembers_of_fills β [] fields start done members h hnames
  refine ⟨_, reads_record hall, ?_⟩
  have hseen : (fields.all fun field => field.optional ||
      (fields.map (·.name)).reverse.contains field.name) = true := by
    rw [List.all_eq_true]
    intro field hfield
    have hmem : field.name ∈ (fields.map (·.name)).reverse :=
      List.mem_reverse.mpr (List.mem_map_of_mem hfield)
    simp [hmem]
  simp only [List.nil_append, List.map_nil, List.reverse_nil] at htake
  simp only [asRecord, htake]
  change (if _ then _ else _ : Except ReadError β) = _
  rw [if_pos hseen]
  rfl

end Judge.Json
