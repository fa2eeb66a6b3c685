import SuiteSync.Proofs.Disk.Making

set_option autoImplicit false

namespace SuiteSync.Disk

open SuiteSync.Path

theorem write_spec (disk written : Disk) (path : String) (bytes : ByteArray) (run : disk.write path bytes = .ok written) :
    ∃ place, Lands (disk.target path) place false ∧ (∀ node, disk.find? place = some node → ∃ held, node = .file held) ∧
      written.working = disk.working ∧
      ∀ other, written.find? other = if other = place then some (.file bytes) else disk.find? other := by
  rw [write] at run
  cases led : disk.target path with
  | error e => simp [led] at run
  | ok found =>
      have stands := disk.look_up_stands true path found led
      cases found with
      | directory base | link place slashed => simp [led] at run
      | file place slashed =>
          obtain ⟨old, held⟩ := stands
          cases slashed with
          | true => simp [led] at run
          | false =>
              simp only [led] at run
              cases run
              refine ⟨place, .inr rfl, fun node standing => ⟨old, ?_⟩, rfl, fun other =>
                disk.find_overwrite place other old bytes held⟩
              exact Option.some.inj (standing.symm.trans held)
      | missing place slashed =>
          cases slashed with
          | true => simp [led] at run
          | false =>
              simp only [led, Disk.place] at run
              split at run
              · rename_i free
                cases run
                refine ⟨place, .inl rfl, fun node standing => ?_, rfl, fun other =>
                  disk.find_add place other (.file bytes) free⟩
                rw [free.1] at standing
                cases standing
              · cases run

theorem write_firm (disk written : Disk) (path : String) (bytes : ByteArray) (run : disk.write path bytes = .ok written) :
    Firm disk written := by
  obtain ⟨place, _, file, working, after⟩ := write_spec disk written path bytes run
  have kept : ∀ other node, (∀ held, node ≠ .file held) → disk.find? other = some node → written.find? other = some node := by
    intro other node noFile there
    rw [after, if_neg]
    · exact there
    · rintro rfl
      obtain ⟨held, same⟩ := file node there
      exact noFile held same
  exact ⟨working, fun other => kept other _ nofun, fun other path => kept other _ nofun⟩

theorem node_landed (disk later : Disk) (path : String) (place : Location) (bytes : ByteArray)
    (lands : Lands (disk.target path) place false) (firm : Firm disk later) (held : later.fileAt place = some bytes) :
    later.node path = .ok (.file bytes) := by
  have found := (later.file_at_iff _ _).mp held
  have meets := look_up_meets disk later place false firm true path lands
  have led : later.target path = .ok (.file place false) := meets.2 bytes found
  simp only [node, led, found]

theorem write_text_steps (disk written : Disk) (path text : String) (run : disk.writeText path text = (.ok (), written)) :
    ∃ made, disk.createParents path = (.ok (), made) ∧ made.write path text.toUTF8 = .ok written := by
  rw [writeText, writeBytes] at run
  split at run
  · cases run
  · rename_i made created
    split at run
    · cases run
    · cases run
      exact ⟨made, created, ‹_›⟩

theorem write_text_reads (disk written : Disk) (path text : String) (run : disk.writeText path text = (.ok (), written)) :
    written.node path = .ok (.file text.toUTF8) := by
  obtain ⟨made, _, wrote⟩ := write_text_steps disk written path text run
  obtain ⟨place, lands, _, _, after⟩ := write_spec made written path _ wrote
  refine node_landed made written path place _ lands (write_firm made written path _ wrote) ((file_at_iff _ _ _).mpr ?_)
  rw [after, if_pos rfl]

structure Saved (disk written : Disk) (path : String) (bytes : ByteArray) : Prop where
  files : ∀ other, written.fileAt other = if other = location disk.working path then some bytes else disk.fileAt other
  firm : Firm disk written
  reads : ∀ (later : Disk) (held : ByteArray), Firm written later →
    later.fileAt (location disk.working path) = some held → later.node path = .ok (.file held)

section Straight

variable (disk : Disk) (path : String) (straight : disk.Straight path)

include straight

theorem lands_location (place : Location) (lands : Lands (disk.target path) place false) :
    place = location disk.working path :=
  lands.elim (target_location disk path _ straight) (target_location disk path _ straight)

theorem write_text_saved (written : Disk) (text : String) (run : disk.writeText path text = (.ok (), written)) :
    Saved disk written path text.toUTF8 := by
  obtain ⟨made, created, wrote⟩ := write_text_steps disk written path text run
  have grown := create_parents_grown disk path straight
  rw [created] at grown
  have before := grown_more _ _ _ grown
  obtain ⟨place, lands, _, _, after⟩ := write_spec made written path _ wrote
  have firm := write_firm made written path _ wrote
  have here := lands_location made path (kept_straight _ _ _ _ path grown straight) place lands
  rw [grown.working] at here
  subst here
  refine ⟨fun other => ?_, firm_trans _ _ _ before.toFirm firm, fun later held more there => ?_⟩
  · by_cases elsewhere : other = location disk.working path
    · rw [if_pos elsewhere, file_at_iff, after, if_pos elsewhere]
    · rw [if_neg elsewhere, ← before.files]
      exact file_at_congr _ _ _ ((after other).trans (if_neg elsewhere))
  · exact node_landed made later path _ held lands (firm_trans _ _ _ firm more) there

theorem write_text_kept (text : String) :
    Kept (· = location disk.working path) (Passes disk.working path) disk (disk.writeText path text).2 := by
  have made := create_parents_grown disk path straight
  have grown : Kept (· = location disk.working path) (Passes disk.working path) disk (disk.createParents path).2 :=
    kept_mono _ _ _ _ _ _ (fun _ => False.elim) (fun _ => .inr) made
  rw [writeText, writeBytes]
  split
  · rename_i e left run
    rwa [run] at grown
  · rename_i left run
    rw [run] at grown
    split
    · exact grown
    · rename_i written wrote
      obtain ⟨place, lands, _, working, after⟩ := write_spec left written path _ wrote
      have here := lands_location left path (kept_straight _ _ _ _ path grown straight) place lands
      rw [grown.working] at here
      refine kept_trans _ _ _ _ _ grown ⟨working, fun other target link => ?_, fun other elsewhere => .inl ?_⟩
      · rw [after] at link
        split at link
        · cases link
        · exact link
      · exact (after other).trans (if_neg (here ▸ elsewhere))

theorem write_text_bounded (text : String) (inside way : Location → Prop)
    (bounded : Bounded disk.working inside way path) : Kept inside way disk (disk.writeText path text).2 := by
  refine kept_mono _ _ _ _ _ _ (fun place here => ?_) bounded.passes (write_text_kept disk path straight text)
  subst here
  exact bounded.ends

end Straight

end SuiteSync.Disk
