import Cabinet.Cpu.State
import Cabinet.Json.Reader

/-!
# Saved processor state

The processor's part of a saved state: every register under its own key.
-/

namespace Cabinet.Cpu

def toJson (cpu : Cpu) : Json :=
  .object [
    ("a", .ofNat cpu.a.toNat),
    ("b", .ofNat cpu.b.toNat),
    ("c", .ofNat cpu.c.toNat),
    ("cycles", .ofNat cpu.cycles.toNat),
    ("d", .ofNat cpu.d.toNat),
    ("e", .ofNat cpu.e.toNat),
    ("flags", .ofNat cpu.flags.toNat),
    ("h", .ofNat cpu.h.toNat),
    ("halted", .bool cpu.halted),
    ("inte", .bool cpu.enabled),
    ("l", .ofNat cpu.l.toNat),
    ("pc", .ofNat cpu.pc.toNat),
    ("pending_interrupt", .ofOption (fun vector => .ofNat vector.toNat) cpu.pending),
    ("sp", .ofNat cpu.sp.toNat)]

open Json (Field Reader)

/-- The fields in the order in which an array lists them. -/
def fields : List Field := [
  .needed "a" Reader.uint8,
  .needed "b" Reader.uint8,
  .needed "c" Reader.uint8,
  .needed "d" Reader.uint8,
  .needed "e" Reader.uint8,
  .needed "h" Reader.uint8,
  .needed "l" Reader.uint8,
  .needed "sp" Reader.uint16,
  .needed "pc" Reader.uint16,
  .needed "flags" Reader.uint8,
  .needed "inte" Reader.bool,
  .needed "halted" Reader.bool,
  .needed "pending_interrupt" (Reader.option Reader.uint8),
  .needed "cycles" Reader.uint64]

def reader : Reader Cpu := fun node => do
  let given ← Json.Fields.read "Cpu8080State" fields node
  return {
    a := ← given.required "a" Reader.uint8
    b := ← given.required "b" Reader.uint8
    c := ← given.required "c" Reader.uint8
    d := ← given.required "d" Reader.uint8
    e := ← given.required "e" Reader.uint8
    h := ← given.required "h" Reader.uint8
    l := ← given.required "l" Reader.uint8
    sp := ← given.required "sp" Reader.uint16
    pc := ← given.required "pc" Reader.uint16
    flags := ← given.required "flags" Reader.uint8
    enabled := ← given.required "inte" Reader.bool
    halted := ← given.required "halted" Reader.bool
    pending := ← given.defaultTo "pending_interrupt" (Reader.option Reader.uint8) none
    cycles := ← given.required "cycles" Reader.uint64 }

end Cabinet.Cpu
