import Cabinet.Config.Validate
import Cabinet.Proofs.Outcome

/-!
# Accepted descriptions

A description is accepted if every part of it is. The regions of one that is accepted
hold at least one byte and do not go past the last address, and its frames take at least
one clock state.
-/

namespace Cabinet.Config

/-- A description is accepted exactly if every part of it is. -/
theorem validate_eq_ok_iff {config : Config} :
    config.validate = .ok () ↔
      checkDisplay config.display = .ok () ∧ checkTiming config.timing = .ok () ∧
        (∀ region ∈ config.memory.rom, checkRom region = .ok ()) ∧
        (∀ region ∈ config.memory.ram, checkRam region = .ok ()) ∧
        config.memory.video.forM checkVideo = .ok () ∧
        ∀ interrupt ∈ config.interrupts, checkInterrupt interrupt = .ok () := by
  unfold validate
  rw [Outcome.check_eq_ok_iff, Outcome.check_eq_ok_iff, Outcome.check_eq_ok_iff,
    Outcome.check_eq_ok_iff, Outcome.check_eq_ok_iff]
  rw [← Outcome.forM_eq_ok_iff, ← Outcome.forM_eq_ok_iff, ← Outcome.forM_eq_ok_iff]

/-- A place of at least one byte that ends at the last address or before. -/
def Fits (start : UInt16) (size : Nat) : Prop :=
  0 < size ∧ start.toNat + size ≤ 65536

theorem fits_of_checkRegion {kind : RegionKind} {start stop : UInt16} {size : Nat}
    (accepted : checkRegion kind start stop size = .ok ()) : Fits start size := by
  unfold checkRegion at accepted
  dsimp only at accepted
  split at accepted
  · cases accepted
  · rename_i forward
    split at accepted
    · cases accepted
    · rename_i suits
      have below := stop.toNat_lt
      rw [UInt16.lt_iff_toNat_lt] at forward
      unfold Fits
      omega

theorem fits_of_checkRom {region : RomRegion} (accepted : checkRom region = .ok ()) :
    Fits region.start region.size := by
  unfold checkRom at accepted
  exact fits_of_checkRegion (Outcome.check_eq_ok_iff.mp accepted).1

theorem fits_of_rom {config : Config} (valid : config.validate = .ok ()) {region : RomRegion}
    (declared : region ∈ config.memory.rom) : Fits region.start region.size := by
  obtain ⟨-, -, rom, -⟩ := validate_eq_ok_iff.mp valid
  exact fits_of_checkRom (rom region declared)

theorem fits_of_ram {config : Config} (valid : config.validate = .ok ()) {region : RamRegion}
    (declared : region ∈ config.memory.ram) : Fits region.start region.size := by
  obtain ⟨-, -, -, ram, -⟩ := validate_eq_ok_iff.mp valid
  exact fits_of_checkRegion (ram region declared)

theorem checkTiming_of_validate {config : Config} (valid : config.validate = .ok ()) :
    checkTiming config.timing = .ok () :=
  (validate_eq_ok_iff.mp valid).2.1

theorem cyclesPerFrame_pos {config : Config} (valid : config.validate = .ok ()) :
    0 < config.cyclesPerFrame := by
  have timing := checkTiming_of_validate valid
  unfold checkTiming at timing
  split at timing
  · cases timing
  · rename_i sound
    have some : config.timing.cyclesPerFrame ≠ 0 := fun none => sound (Or.inr (Or.inr none))
    exact Nat.pos_of_ne_zero some

theorem period_ne_zero {config : Config} (valid : config.validate = .ok ()) {interrupt : Interrupt}
    (declared : interrupt ∈ config.interrupts) : interrupt.period ≠ 0 := by
  obtain ⟨-, -, -, -, -, interrupts⟩ := validate_eq_ok_iff.mp valid
  have accepted := interrupts interrupt declared
  unfold checkInterrupt at accepted
  split at accepted
  · cases accepted
  · assumption

end Cabinet.Config
