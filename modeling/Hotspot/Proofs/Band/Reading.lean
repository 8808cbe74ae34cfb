import Hotspot.Band.Reading

/-! What spellings of a selection of bands denote. Each of the three forms adds bands to a
selection, so a spelling denotes the union of what its parts denote, whatever their order
and however they are nested. Only selections among the three bands have a spelling, and each
of these has one in every form. -/

namespace Hotspot.Band

variable {band start other : Band} {items others inner : List Value} {names : List (List Char)}

/-- The selection has one of the three bands at least, and no other bits. -/
def IsNamed (band : Band) : Prop :=
  0 < band.mask ∧ band.mask ≤ 7

instance (band : Band) : Decidable band.IsNamed :=
  inferInstanceAs (Decidable (_ ∧ _))

theorem union_mask_le {band other : Band} (small : band.mask ≤ 7) (otherSmall : other.mask ≤ 7) :
    (band.union other).mask ≤ 7 := by
  have bounded : band.mask ||| other.mask < 2 ^ 3 :=
    Nat.or_lt_two_pow (by omega) (by omega)
  exact Nat.le_of_lt_succ bounded

theorem union_mask_pos {band other : Band} (some : 0 < other.mask) :
    0 < (band.union other).mask :=
  Nat.lt_of_lt_of_le some Nat.right_le_or

theorem isNamed_of_ofName? {name : String} {band : Band} (read : ofName? name = some band) :
    band.IsNamed := by
  unfold ofName? at read
  split at read <;> cases read <;> decide

theorem addNames_range {names : List (List Char)} {start band : Band} (small : start.mask ≤ 7)
    (read : addNames start names = .ok band) :
    band.mask ≤ 7 ∧ (names ≠ [] ∨ 0 < start.mask → 0 < band.mask) := by
  induction names generalizing start with
  | nil =>
    cases read
    exact ⟨small, fun either => either.resolve_left fun nonempty => nonempty rfl⟩
  | cons name rest induction =>
    unfold addNames at read
    split at read
    · rename_i named known
      have range := isNamed_of_ofName? known
      have later := induction (union_mask_le small range.2) read
      exact ⟨later.1, fun _ => later.2 (.inr (union_mask_pos range.1))⟩
    · cases read

theorem isNamed_of_ofText {text : String} {band : Band} (read : ofText text = .ok band) :
    band.IsNamed := by
  unfold ofText at read
  simp only at read
  split at read
  · cases read
  · have range := addNames_range (by decide) read
    exact ⟨range.2 (.inl (List.splitOnP_ne_nil _ _)), range.1⟩

mutual

theorem isNamed_of_ofValue : ∀ {value : Value} {band : Band},
    ofValue value = .ok band → band.IsNamed
  | .integer mask, band, read => by
    unfold ofValue ofMask at read
    split at read
    · cases read
      simp only [IsNamed]
      omega
    · cases read
  | .text text, band, read => isNamed_of_ofText (by simpa [ofValue] using read)
  | .list [], band, read => by simp [ofValue] at read
  | .list (first :: others), band, read => by
    have range := addItems_range (show Band.none.mask ≤ 7 by decide) (by simpa [ofValue] using read)
    exact ⟨range.2 (.inl (by simp)), range.1⟩
  | .bool _, _, read => by simp [ofValue] at read
  | .null, _, read => by simp [ofValue] at read
  | .float _, _, read => by simp [ofValue] at read
  | .bytes _, _, read => by simp [ofValue] at read
  | .object _, _, read => by simp [ofValue] at read

theorem addItems_range : ∀ {items : List Value} {start band : Band}, start.mask ≤ 7 →
    addItems start items = .ok band →
    band.mask ≤ 7 ∧ (items ≠ [] ∨ 0 < start.mask → 0 < band.mask)
  | [], start, band, small, read => by
    rw [addItems] at read
    cases read
    exact ⟨small, fun either => either.resolve_left fun nonempty => nonempty rfl⟩
  | item :: rest, start, band, small, read => by
    unfold addItems at read
    split at read
    · rename_i spelled known
      have range := isNamed_of_ofValue known
      have later := addItems_range (union_mask_le small range.2) read
      exact ⟨later.1, fun _ => later.2 (.inr (union_mask_pos range.1))⟩
    · cases read

end

theorem ofValue_mask {band : Band} (named : band.IsNamed) :
    ofValue (.integer band.mask) = .ok band := by
  have range : 0 < (band.mask : Int) ∧ (band.mask : Int) ≤ 7 := by
    unfold IsNamed at named
    omega
  rw [ofValue, ofMask, if_pos range, Int.toNat_natCast]

theorem ofValue_mask_of_not_isNamed {band : Band} (unnamed : ¬band.IsNamed) :
    ofValue (.integer band.mask) = .error (.unsupportedMask band.mask) := by
  have outside : ¬(0 < (band.mask : Int) ∧ (band.mask : Int) ≤ 7) := by
    unfold IsNamed at unnamed
    omega
  rw [ofValue, ofMask, if_neg outside]

/-! ## Unions -/

def unions : List Band → Band
  | [] => none
  | band :: rest => band.union (unions rest)

theorem union_none (band : Band) : band.union none = band := by
  simp [union, none]

theorem none_union (band : Band) : none.union band = band := by
  simp [union, none]

theorem union_assoc (band other third : Band) :
    (band.union other).union third = band.union (other.union third) := by
  simp [union, Nat.or_assoc]

theorem testBit_unions (bands : List Band) (bit : Nat) :
    (unions bands).mask.testBit bit = true ↔ ∃ band ∈ bands, band.mask.testBit bit = true := by
  induction bands with
  | nil => simp [unions, none]
  | cons band rest induction => simp [unions, union, induction]

theorem unions_eq_of_mem_iff {bands others : List Band}
    (same : ∀ band, band ∈ bands ↔ band ∈ others) : unions bands = unions others := by
  have masks : (unions bands).mask = (unions others).mask := by
    apply Nat.eq_of_testBit_eq
    intro bit
    rw [Bool.eq_iff_iff, testBit_unions, testBit_unions]
    simp only [same]
  exact congrArg Band.mk masks

/-! ## Adding what is read -/

/-- What is read of each item is added to a selection, up to the first item that is refused. -/
structure Adds {α : Type} (read : α → Except Error Band)
    (add : Band → List α → Except Error Band) : Prop where
  nil (start : Band) : add start [] = .ok start
  cons (start : Band) (item : α) (rest : List α) :
    add start (item :: rest) = (read item).bind fun band => add (start.union band) rest

namespace Adds

variable {α : Type} {read : α → Except Error Band} {add : Band → List α → Except Error Band}

theorem eq_ok_iff (adds : Adds read add) {row : List α} :
    add start row = .ok band ↔
      ∃ reads, row.map read = reads.map .ok ∧ band = start.union (unions reads) := by
  induction row generalizing start with
  | nil =>
    rw [adds.nil]
    constructor
    · rintro ⟨⟩
      exact ⟨[], rfl, (union_none _).symm⟩
    · rintro ⟨reads, none, rfl⟩
      rw [List.map_eq_nil_iff.mp none.symm, unions, union_none]
  | cons item rest induction =>
    rw [adds.cons]
    constructor
    · intro added
      cases first : read item with
      | error error =>
        rw [first] at added
        cases added
      | ok denoted =>
        rw [first] at added
        rcases induction.mp added with ⟨reads, others, rfl⟩
        refine ⟨denoted :: reads, ?_, union_assoc _ _ _⟩
        rw [List.map_cons, List.map_cons, first, others]
    · rintro ⟨reads, all, rfl⟩
      cases reads with
      | nil => cases all
      | cons denoted reads =>
        rcases List.cons.inj all with ⟨first, others⟩
        rw [first]
        exact induction.mpr ⟨reads, others, (union_assoc _ _ _).symm⟩

theorem append (adds : Adds read add) (start : Band) (row rest : List α) :
    add start (row ++ rest) = (add start row).bind fun band => add band rest := by
  induction row generalizing start with
  | nil =>
    rw [adds.nil]
    rfl
  | cons item row induction =>
    rw [List.cons_append, adds.cons, adds.cons]
    cases read item with
    | error error => rfl
    | ok denoted => exact induction _

theorem union (adds : Adds read add) (start band : Band) (row : List α) :
    add (start.union band) row = (add band row).map start.union := by
  induction row generalizing band with
  | nil =>
    rw [adds.nil, adds.nil]
    rfl
  | cons item rest induction =>
    rw [adds.cons, adds.cons]
    cases read item with
    | error error => rfl
    | ok denoted =>
      change add ((start.union band).union denoted) rest = _
      rw [union_assoc]
      exact induction _

end Adds

/-! ## Names -/

def readName (name : List Char) : Except Error Band :=
  match ofName? (String.ofList name) with
  | some band => .ok band
  | Option.none => .error (.unknownName (String.ofList name))

theorem adds_addNames : Adds readName addNames where
  nil _ := rfl
  cons start name rest := by
    rw [addNames, readName]
    cases ofName? (String.ofList name) <;> rfl

theorem readName_eq_ok_iff {name : List Char} :
    readName name = .ok band ↔ ofName? (String.ofList name) = some band := by
  unfold readName
  cases ofName? (String.ofList name) <;> simp

theorem map_readName_eq_iff {reads : List Band} :
    names.map readName = reads.map .ok ↔
      names.map (fun name => ofName? (String.ofList name)) = reads.map some := by
  induction names generalizing reads with
  | nil => cases reads <;> simp
  | cons name rest induction => cases reads <;> simp [readName_eq_ok_iff, induction]

theorem ofText_eq_ok_iff {text : String} :
    ofText text = .ok band ↔
      ∃ reads, (splitNames (foldText text)).map (fun name => ofName? (String.ofList name)) =
        reads.map some ∧ band = unions reads := by
  have split : addNames none (splitNames (foldText text)) = .ok band ↔ _ := adds_addNames.eq_ok_iff
  simp only [map_readName_eq_iff, none_union] at split
  rw [← split, ofText]
  split
  · rename_i empty
    rw [List.isEmpty_iff.mp empty]
    exact ⟨nofun, nofun⟩
  · rfl

/-! ## Lists -/

theorem adds_addItems : Adds ofValue addItems where
  nil _ := by rw [addItems]
  cons start item rest := by
    rw [addItems]
    cases ofValue item <;> rfl

theorem ofValue_list (nonempty : items ≠ []) : ofValue (.list items) = addItems none items := by
  cases items with
  | nil => exact absurd rfl nonempty
  | cons first rest => rw [ofValue]; simp

theorem ofValue_list_eq_ok_iff :
    ofValue (.list items) = .ok band ↔
      items ≠ [] ∧ ∃ reads, items.map ofValue = reads.map .ok ∧ band = unions reads := by
  by_cases empty : items = []
  · rw [empty, ofValue]
    exact ⟨nofun, fun both => absurd rfl both.1⟩
  · rw [ofValue_list empty, adds_addItems.eq_ok_iff]
    simp only [none_union, ne_eq, empty, not_false_eq_true, true_and]

theorem mem_reads_iff {reads : List Band} (all : items.map ofValue = reads.map .ok) :
    band ∈ reads ↔ ∃ item ∈ items, ofValue item = .ok band := by
  have member := List.mem_map.symm.trans (Iff.of_eq (congrArg (Except.ok band ∈ ·) all))
  rw [member]
  simp

theorem exists_reads (accepted : ∀ item ∈ items, ∃ denoted, ofValue item = .ok denoted) :
    ∃ reads : List Band, items.map ofValue = reads.map .ok := by
  induction items with
  | nil => exact ⟨[], rfl⟩
  | cons first rest induction =>
    rcases accepted first List.mem_cons_self with ⟨denoted, read⟩
    rcases induction fun item member => accepted item (List.mem_cons_of_mem first member) with
      ⟨reads, others⟩
    exact ⟨denoted :: reads, by rw [List.map_cons, read, others, List.map_cons]⟩

theorem toOption_ofValue_list (same : ∀ item, item ∈ items ↔ item ∈ others) :
    (ofValue (.list items)).toOption = (ofValue (.list others)).toOption := by
  -- The first item at fault depends on the order, so only what is accepted is carried over.
  have carries {items others : List Value} (same : ∀ item, item ∈ items ↔ item ∈ others)
      {band : Band} (read : ofValue (.list items) = .ok band) :
      ofValue (.list others) = .ok band := by
    rcases ofValue_list_eq_ok_iff.mp read with ⟨nonempty, reads, all, rfl⟩
    have accepted : ∀ item ∈ others, ∃ denoted, ofValue item = .ok denoted := by
      intro item member
      have inside : ofValue item ∈ reads.map Except.ok :=
        all ▸ List.mem_map_of_mem ((same item).mpr member)
      rcases List.mem_map.mp inside with ⟨denoted, _, read⟩
      exact ⟨denoted, read.symm⟩
    rcases exists_reads accepted with ⟨otherReads, otherAll⟩
    refine ofValue_list_eq_ok_iff.mpr ⟨?_, otherReads, otherAll, unions_eq_of_mem_iff ?_⟩
    · rintro rfl
      exact nonempty (List.eq_nil_iff_forall_not_mem.mpr fun item member =>
        List.not_mem_nil ((same item).mp member))
    · intro band
      rw [mem_reads_iff all, mem_reads_iff otherAll]
      simp only [same]
  cases read : ofValue (.list items) with
  | ok band => rw [carries same read]
  | error error =>
    cases otherRead : ofValue (.list others) with
    | ok band =>
      have back := carries (fun item => (same item).symm) otherRead
      rw [read] at back
      cases back
    | error other => rfl

theorem ofValue_list_of_nested (before after : List Value) (nonempty : inner ≠ []) :
    ofValue (.list (before ++ .list inner :: after)) =
      ofValue (.list (before ++ inner ++ after)) := by
  -- The inner list begins a selection of its own, which is then added to what came before it.
  have inside (start : Band) :
      addItems start (.list inner :: after) = addItems start (inner ++ after) := by
    rw [adds_addItems.cons, adds_addItems.append, ofValue_list nonempty]
    have fresh := adds_addItems.union start none inner
    rw [union_none] at fresh
    rw [fresh]
    cases addItems none inner <;> rfl
  rw [ofValue_list (by simp), ofValue_list (by simp [nonempty]), List.append_assoc,
    adds_addItems.append, adds_addItems.append]
  simp only [inside]

/-! ## Spellings of a selection -/

def ofRadio : Radio → Band
  | .ghz2 => ghz2
  | .ghz5 => ghz5
  | .ghz6 => ghz6

theorem ofName?_name (radio : Radio) : ofName? radio.name = some (ofRadio radio) := by
  cases radio <;> rfl

theorem splitNames_name (radio : Radio) :
    splitNames (foldText radio.name) = [radio.name.toList] := by
  cases radio <;> decide +kernel

theorem ofText_name (radio : Radio) : ofText radio.name = .ok (ofRadio radio) := by
  refine ofText_eq_ok_iff.mpr ⟨[ofRadio radio], ?_, (union_none _).symm⟩
  rw [splitNames_name]
  simp [ofName?_name]

theorem IsNamed.induction (holds : Band → Bool) (named : band.IsNamed)
    (all : ((List.range' 1 7).map Band.mk).all holds = true) : holds band = true := by
  have member : band ∈ (List.range' 1 7).map Band.mk :=
    List.mem_map.mpr ⟨band.mask, List.mem_range'_1.mpr ⟨named.1, Nat.lt_succ_of_le named.2⟩, rfl⟩
  exact List.all_eq_true.mp all band member

theorem unions_radios (named : band.IsNamed) : unions (band.radios.map ofRadio) = band :=
  of_decide_eq_true <| named.induction
    (fun band => decide (unions (band.radios.map ofRadio) = band)) (by decide)

theorem radios_ne_nil (named : band.IsNamed) : band.radios ≠ [] :=
  of_decide_eq_true <| named.induction (fun band => decide (band.radios ≠ [])) (by decide)

theorem splitNames_names (named : band.IsNamed) :
    splitNames (foldText ("|".intercalate band.names)) = band.names.map String.toList :=
  of_decide_eq_true <| named.induction (fun band => decide
    (splitNames (foldText ("|".intercalate band.names)) = band.names.map String.toList))
    (by decide +kernel)

theorem ofValue_names (named : band.IsNamed) :
    ofValue (.list (band.names.map .text)) = .ok band := by
  refine ofValue_list_eq_ok_iff.mpr ⟨?_, band.radios.map ofRadio, ?_, (unions_radios named).symm⟩
  · simp [names, radios_ne_nil named]
  · simp [names, Function.comp_def, ofValue, ofText_name]

theorem ofText_names (named : band.IsNamed) :
    ofText ("|".intercalate band.names) = .ok band := by
  refine ofText_eq_ok_iff.mpr ⟨band.radios.map ofRadio, ?_, (unions_radios named).symm⟩
  rw [splitNames_names named]
  simp [names, Function.comp_def, ofName?_name]

/-- Whatever is spelled is a selection among the three bands, or refused. A list of spellings
denotes what its items denote together, so their order, their number and their grouping in
lists make no difference; a text denotes what its names denote together. Any selection that
has a spelling has one in each form: its mask, the list of its names, and the names joined. -/
theorem ofValue_unions (value : Value) (band : Band) (items : List Value) (text : String) :
    ((∃ error, ofValue value = .error error) ∨
        ∃ read, ofValue value = .ok read ∧ 1 ≤ read.mask ∧ read.mask ≤ 7) ∧
      (ofValue (.list items) = .ok band ↔
        items ≠ [] ∧ ∃ reads, items.map ofValue = reads.map .ok ∧ band = unions reads) ∧
      (∀ others : List Value, (∀ item, item ∈ items ↔ item ∈ others) →
        (ofValue (.list items)).toOption = (ofValue (.list others)).toOption) ∧
      (∀ before inner after, items = before ++ inner ++ after → inner ≠ [] →
        ofValue (.list (before ++ .list inner :: after)) = ofValue (.list items)) ∧
      (ofValue (.text text) = .ok band ↔
        ∃ reads, (((Text.lower (Text.trim text.toList)).filter (· ≠ ' ')).splitOnP
            fun character => character = '|' || character = '+').map
              (fun part => ofName? (String.ofList part)) = reads.map some ∧
          band = unions reads) ∧
      (ofValue value = .ok band →
        ofValue (.integer band.mask) = .ok band ∧
          ofValue (.list (band.names.map .text)) = .ok band ∧
          ofValue (.text ("|".intercalate band.names)) = .ok band) := by
  refine ⟨?_, ofValue_list_eq_ok_iff, fun others => toOption_ofValue_list, ?_, ?_, ?_⟩
  · cases read : ofValue value with
    | error error => exact .inl ⟨error, rfl⟩
    | ok denoted => exact .inr ⟨denoted, rfl, isNamed_of_ofValue read⟩
  · rintro before inner after rfl nonempty
    exact ofValue_list_of_nested before after nonempty
  · rw [ofValue]
    exact ofText_eq_ok_iff
  · intro read
    have named := isNamed_of_ofValue read
    refine ⟨ofValue_mask named, ofValue_names named, ?_⟩
    rw [ofValue]
    exact ofText_names named

end Hotspot.Band
