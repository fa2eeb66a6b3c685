import SuiteSync.Proofs.Disk.Making

set_option autoImplicit false

namespace SuiteSync.Disk

open SuiteSync.Path

structure Same (disk other : Disk) : Prop where
  working : disk.working = other.working
  nodes : ∀ place, disk.find? place = other.find? place

inductive SameMade : Except Refusal Disk → Except Refusal Disk → Prop where
  | made (disk other : Disk) (same : Same disk other) : SameMade (.ok disk) (.ok other)
  | refused (refusal : Refusal) : SameMade (.error refusal) (.error refusal)

inductive SameEnd {ε α : Type} : Except ε α × Disk → Except ε α × Disk → Prop where
  | done (value : α) (disk other : Disk) (same : Same disk other) : SameEnd (.ok value, disk) (.ok value, other)
  | failed (error : ε) (disk other : Disk) : SameEnd (.error error, disk) (.error error, other)

theorem same_end_map {ε ε' α : Type} (f : ε → ε') (one two : Except ε α × Disk) (same : SameEnd one two) :
    SameEnd (one.1.mapError f, one.2) (two.1.mapError f, two.2) := by
  cases same with
  | done value disk other same => exact .done value disk other same
  | failed error disk other => exact .failed (f error) disk other

section Operations

variable (disk other : Disk) (same : Same disk other)

include same

theorem free_same (place : Location) : disk.Free place ↔ other.Free place := by
  rw [Free, Free, same.nodes, same.nodes]

theorem walk_same (behind : Location → String → String → List String → Except Refusal Target) (here : Location)
    (segments : List String) : disk.walk behind here segments = other.walk behind here segments := by
  induction segments generalizing here with
  | nil => rw [walk, walk, same.nodes]
  | cons segment rest ih =>
      rw [walk, walk, ih, ih]
      simp only [same.nodes (here ++ [segment]), free_same disk other same, ih]

theorem follow_same (through : Bool) (links : Nat) (here : Location) (segments : List String) :
    disk.follow through links here segments = other.follow through links here segments := by
  induction links generalizing here segments with
  | zero => exact walk_same disk other same _ here segments
  | succ links ih =>
      rw [follow, follow, walk_same disk other same]
      simp only [ih]

theorem look_up_same (through : Bool) (path : String) : disk.lookUp through path = other.lookUp through path := by
  rw [lookUp, lookUp, follow_same disk other same, same.working]

theorem target_same (path : String) : disk.target path = other.target path := look_up_same disk other same true path

theorem sight_same (path : String) : disk.sight path = other.sight path := look_up_same disk other same false path

theorem refusal_to_open_same (refusal : Refusal) (links : Nat) (met : Except Refusal Target) :
    disk.refusalToOpen refusal links met = other.refusalToOpen refusal links met := by
  induction links generalizing met with
  | zero => rcases met with _ | _ | _ | _ | ⟨_, _ | _⟩ <;> rfl
  | succ links ih =>
      rcases met with _ | _ | _ | _ | ⟨place, _ | _⟩
      case ok.link.false =>
        rw [refusalToOpen, refusalToOpen, same.nodes]
        simp only [ih, follow_same disk other same]
      all_goals rfl

theorem is_directory_same (path : String) : disk.isDirectory path = other.isDirectory path := by
  have found : disk.node path = other.node path := by
    rw [node, node, target_same disk other same]
    simp only [same.nodes _]
  rw [isDirectory, isDirectory, found]

theorem place_same (place : Location) (node : Node) : SameMade (disk.place place node) (other.place place node) := by
  rw [Disk.place, Disk.place]
  by_cases free : disk.Free place
  · have free' := (free_same disk other same place).mp free
    rw [dif_pos free, dif_pos free']
    refine .made _ _ ⟨same.working, fun spot => ?_⟩
    rw [find_add, find_add, same.nodes]
  · rw [dif_neg free, dif_neg fun free' => free ((free_same disk other same place).mpr free')]
    exact .refused _

theorem make_directory_same (path : String) : SameMade (disk.makeDirectory path) (other.makeDirectory path) := by
  rw [makeDirectory, makeDirectory, sight_same disk other same]
  split
  · exact .refused _
  · exact place_same disk other same _ _
  · exact .refused _

end Operations

theorem make_directories_same (disk other : Disk) (same : Same disk other) (paths : List String) :
    SameEnd (disk.makeDirectories paths) (other.makeDirectories paths) := by
  induction paths with
  | nil => exact .done () disk other same
  | cons path above ih =>
      have made := make_directory_same disk other same path
      have there := is_directory_same disk other same path
      rw [makeDirectories, makeDirectories]
      generalize disk.makeDirectory path = one at made ⊢
      generalize other.makeDirectory path = two at made ⊢
      cases made with
      | made disk' other' same' => exact .done () disk' other' same'
      | refused refusal =>
          split
          · rename_i impossible
            cases impossible
          · rename_i lost
            cases lost
            generalize disk.makeDirectories above = first at ih ⊢
            generalize other.makeDirectories above = second at ih ⊢
            cases ih with
            | failed error disk' other' => exact .failed error disk' other'
            | done _ left left' alike =>
                have again := make_directory_same left left' alike path
                have stands := is_directory_same left left' alike path
                dsimp only
                generalize left.makeDirectory path = third at again ⊢
                generalize left'.makeDirectory path = fourth at again ⊢
                cases again with
                | made disk' other' same' => exact .done () disk' other' same'
                | refused refusal =>
                    dsimp only
                    rw [stands]
                    split
                    · exact .done () left left' alike
                    · exact .failed refusal left left'
          · rename_i kept
            cases kept
            rw [there]
            split
            · exact .done () disk other same
            · exact .failed refusal disk other

theorem create_all_same (disk other : Disk) (same : Same disk other) (path : String) :
    SameEnd (disk.createAll path) (other.createAll path) := by
  rw [createAll, createAll]
  split
  · exact .done () disk other same
  · exact same_end_map _ _ _ (make_directories_same disk other same (path :: parents path))

theorem create_parents_same (disk other : Disk) (same : Same disk other) (path : String) :
    SameEnd (disk.createParents path) (other.createParents path) := by
  rw [createParents, createParents]
  split
  · exact .done () disk other same
  · exact create_all_same disk other same _

theorem write_same (disk other : Disk) (same : Same disk other) (path : String) (bytes : ByteArray) :
    SameMade (disk.write path bytes) (other.write path bytes) := by
  have led := target_same disk other same path
  rw [write, write, ← led, ← sight_same disk other same path]
  simp only [refusal_to_open_same disk other same]
  split
  · exact .refused _
  · exact .refused _
  · exact .refused _
  · exact .refused _
  · exact .refused _
  · rename_i place found
    obtain ⟨old, held⟩ := disk.look_up_stands true path _ found
    refine .made _ _ ⟨same.working, fun spot => ?_⟩
    rw [find_overwrite _ _ _ old bytes held, find_overwrite _ _ _ old bytes (same.nodes place ▸ held), same.nodes]
  · exact place_same disk other same _ _

theorem write_text_same (disk other : Disk) (same : Same disk other) (path text : String) :
    SameEnd (disk.writeText path text) (other.writeText path text) := by
  have parents := create_parents_same disk other same path
  rw [writeText, writeText, writeBytes, writeBytes]
  generalize disk.createParents path = one at parents ⊢
  generalize other.createParents path = two at parents ⊢
  cases parents with
  | failed error disk' other' => exact .failed error disk' other'
  | done _ left left' alike =>
      have wrote := write_same left left' alike path text.toUTF8
      dsimp only
      generalize left.write path text.toUTF8 = third at wrote ⊢
      generalize left'.write path text.toUTF8 = fourth at wrote ⊢
      cases wrote with
      | made disk' other' same' => exact .done () disk' other' same'
      | refused refusal => exact .failed _ left left'

end SuiteSync.Disk
