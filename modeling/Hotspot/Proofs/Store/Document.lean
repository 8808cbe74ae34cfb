import Hotspot.Proofs.Configuration.Mapping
import Hotspot.Proofs.Disk.Writing
import Hotspot.Store.Document

/-! The engine that writes to a JSON document. What it writes reads back as what
the store held, provided that its bands have names; a selection without one is
written all the same, and the document then counts as empty. -/

namespace Hotspot.Document

/-! ## Documents -/

theorem isPlain_content (slot : Option Configuration) : (content slot).IsPlain := by
  cases slot with
  | none => simp [content, Value.IsPlain, HavePlain]
  | some configuration =>
    simpa [content, Value.IsPlain, HavePlain] using configuration.isPlain_toValue

theorem ofContent?_content (slot : Option Configuration) :
    ofContent? (content slot) = slot.filter fun configuration => configuration.band.IsNamed := by
  cases slot with
  | none => rfl
  | some configuration =>
    have read : ofContent? (content (some configuration)) =
        (Configuration.ofValue (configuration.toValue true)).toOption := by
      simp [ofContent?, content, Fields.find?]
    rw [read]
    by_cases named : configuration.band.IsNamed
    · simp [Configuration.ofValue_toValue named, Except.toOption, Option.filter, named]
    · simp [Configuration.ofValue_toValue_of_not_isNamed named, Except.toOption, Option.filter,
        named]

theorem decode?_encode (slot : Option Configuration) :
    decode? (encode slot) = slot.filter fun configuration => configuration.band.IsNamed := by
  have read := Json.ofUtf8?_print Json.Layout.isBlank_indented (isPlain_content slot)
  simp [decode?, encode, read, ofContent?_content]

theorem decode?_encode_of_isNamed {slot : Option Configuration}
    (named : ∀ configuration ∈ slot, configuration.band.IsNamed) :
    decode? (encode slot) = slot := by
  rw [decode?_encode]
  cases slot with
  | none => rfl
  | some configuration => simp [Option.filter, named configuration rfl]

theorem isNamed_of_decode? {bytes : List UInt8} {configuration : Configuration}
    (read : decode? bytes = some configuration) : configuration.band.IsNamed := by
  unfold decode? at read
  rcases Option.bind_eq_some_iff.mp read with ⟨value, _, found⟩
  unfold ofContent? at found
  split at found
  · rcases Option.bind_eq_some_iff.mp found with ⟨spelling, _, spelled⟩
    exact Configuration.IsSpelled.isNamed ⟨spelling, Configuration.toOption_eq_some spelled⟩
  · cases found

theorem isNamed_of_stored? {document : Document} {configuration : Configuration}
    (held : document.stored? = some configuration) : configuration.band.IsNamed := by
  unfold stored? decodeFile? at held
  split at held
  · exact isNamed_of_decode? held
  · cases held

theorem stored?_of_file {document : Document} {bytes : List UInt8}
    (file : document.disk.named? document.path = some (.file bytes)) :
    document.stored? = decode? bytes := by
  rw [stored?, file]
  rfl

theorem stored?_of_missing {document : Document}
    (missing : document.disk.named? document.path = none) : document.stored? = none := by
  rw [stored?, missing]
  rfl

/-! ## Requests -/

variable {document : Document} {slot : Option Configuration}

theorem request_of_unloaded (unloaded : document.loaded = false) :
    Engine.request document slot = { engine := document } := by
  simp [Engine.request, request, unloaded]

theorem write_of_unharmed (unharmed : document.faults = []) (slot : Option Configuration) :
    document.write slot = document.disk.write document.path (encode slot) := by
  rw [write, unharmed]
  rfl

theorem named?_of_write {disk : Disk} (written : document.write slot = (.ok (), disk)) :
    disk.named? document.path = some (.file (encode slot)) := by
  unfold write at written
  exact Disk.named?_of_write written

theorem request_of_write (loaded : document.loaded = true) {disk : Disk}
    (written : document.write slot = (.ok (), disk)) :
    Engine.request document slot =
      { engine :=
          { document with disk, writes := document.writes + 1, faults := document.faults.tail }
        taken := true } := by
  simp [Engine.request, request, loaded, written]

theorem request_of_writable (loaded : document.loaded = true) (unharmed : document.faults = [])
    (writable : document.disk.Writable document.path) :
    ∃ disk, document.disk.write document.path (encode slot) = (.ok (), disk) ∧
      Engine.request document slot =
        { engine := { document with disk, writes := document.writes + 1 }, taken := true } := by
  rcases writable (encode slot) with ⟨disk, written⟩
  refine ⟨disk, written, ?_⟩
  rw [request_of_write loaded ((write_of_unharmed unharmed slot).trans written), unharmed]
  rfl

theorem request_of_error (loaded : document.loaded = true) {error : PathError} {disk : Disk}
    (failed : document.write slot = (.error error, disk)) :
    Engine.request document slot =
      { engine := { document with disk, faults := document.faults.tail }
        taken := true
        outcome := if error = .nullCharacter then .error (.path error) else .ok () } := by
  simp only [Engine.request, request, loaded, if_true, failed]
  cases error <;> rfl

theorem taken_of_loaded (loaded : document.loaded = true) (slot : Option Configuration) :
    (Engine.request document slot).taken = true := by
  simp only [Engine.request, request, loaded, if_true]
  split <;> rfl

theorem writable_of_stored? {configuration : Configuration}
    (held : document.stored? = some configuration) : document.disk.Writable document.path := by
  unfold stored? decodeFile? at held
  split at held
  · rename_i bytes file
    exact Disk.writable_of_file file
  · cases held

theorem accepts_request (usable : document.path.IsUsable) (slot : Option Configuration) :
    (Engine.request document slot).outcome = .ok () := by
  simp only [Engine.request, request]
  split
  · split
    · rfl
    · rename_i failed
      exact absurd failed (document.disk.write_ne_nullCharacter usable _ _)
    · rfl
  · rfl

/-- An engine that has loaded its document attempts to write it at a request, and
does nothing else. -/
theorem request_cases (document : Document) (slot : Option Configuration) :
    (∃ disk, document.write slot = (.ok (), disk) ∧
        (Engine.request document slot).engine =
          { document with disk, writes := document.writes + 1, faults := document.faults.tail }) ∨
      (∃ error disk, document.write slot = (.error error, disk) ∧
        (Engine.request document slot).engine =
          { document with disk, faults := document.faults.tail }) ∨
      (Engine.request document slot).engine = document := by
  by_cases loaded : document.loaded = true
  · rcases attempt : document.write slot with ⟨error | _, disk⟩
    · exact .inr (.inl ⟨error, disk, rfl, congrArg Reply.engine (request_of_error loaded attempt)⟩)
    · exact .inl ⟨disk, rfl, congrArg Reply.engine (request_of_write loaded attempt)⟩
  · rw [request_of_unloaded (eq_false_of_ne_true loaded)]
    exact .inr (.inr rfl)

theorem disk_request (document : Document) (slot : Option Configuration) :
    (Engine.request document slot).engine.disk = document.disk ∨
      ∃ bytes, document.disk.write document.path bytes =
        (.ok (), (Engine.request document slot).engine.disk) := by
  rcases request_cases document slot with
    ⟨disk, written, same⟩ | ⟨error, disk, failed, same⟩ | same
  · have whole := (Disk.write_eq_ok_iff.mp written).1
    rw [write, whole] at written
    rw [same]
    exact .inr ⟨_, written⟩
  · rw [same]
    rcases Disk.eq_or_write_of_write_error failed with kept | ⟨count, _, written⟩
    · exact .inl kept
    · exact .inr ⟨_, written⟩
  · exact .inl (congrArg disk same)

/-- Where nothing befalls the write, it is done as a whole or not at all. -/
theorem request_cases_of_unharmed (unharmed : document.faults = [])
    (slot : Option Configuration) :
    (∃ disk writes, document.disk.write document.path (encode slot) = (.ok (), disk) ∧
        (Engine.request document slot).engine = { document with disk, writes }) ∨
      (Engine.request document slot).engine = document := by
  have spent : document.faults.tail = document.faults := by rw [unharmed]; rfl
  rcases request_cases document slot with
    ⟨disk, written, same⟩ | ⟨error, disk, failed, same⟩ | same
  · rw [write_of_unharmed unharmed] at written
    refine .inl ⟨disk, document.writes + 1, written, same.trans ?_⟩
    rw [spent]
  · rw [write_of_unharmed unharmed] at failed
    have kept : disk = document.disk := Disk.eq_of_write_error failed
    refine .inr (same.trans ?_)
    rw [kept, spent]
  · exact .inr same

@[simp] theorem path_request (document : Document) (slot : Option Configuration) :
    (Engine.request document slot).engine.path = document.path := by
  rcases request_cases document slot with ⟨_, _, same⟩ | ⟨_, _, _, same⟩ | same <;> rw [same]

theorem stored?_of_write {after : Document}
    (named : ∀ configuration ∈ slot, configuration.band.IsNamed)
    (written : document.disk.write document.path (encode slot) = (.ok (), after.disk))
    (onPath : after.path = document.path) : after.stored? = slot := by
  have file : after.disk.named? after.path = some (.file (encode slot)) := by
    rw [onPath]
    exact Disk.named?_of_write written
  rw [stored?_of_file file]
  exact decode?_encode_of_isNamed named

end Hotspot.Document
