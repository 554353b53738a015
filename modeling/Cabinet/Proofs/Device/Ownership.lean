import Cabinet.Proofs.Device.Delivery

/-!
# A latch for each handler

Every output handler has a latch of its own: a byte that is put out for it changes
this latch by a rule that looks at nothing else, and no other handler touches it.
Together with the switches and the controls, which no output reaches, the latches
are all that there is. So devices know the bytes that each handler was given, in
their order, but not how the handlers took turns or which ports were used.
-/

namespace Cabinet

attribute [ext] Shifter Devices

/-- What the bytes for a handler leave behind. -/
def OutHandler.Latch : OutHandler → Type
  | .shiftOffset => UInt8
  | .shiftData => UInt16
  | .sound _ => Option UInt8
  | .watchdogReset => UInt64
  | .coinCounter => UInt8 × UInt32
  | .videoSelect => UInt8
  | .flipScreen => Bool
  | .colorBank => UInt8
  | .speech => Bool
  | .speechData => UInt8
  | .stub => Unit

/-- A byte enters a word at its high end and pushes the older one down. -/
def shiftIn (word : UInt16) (byte : UInt8) : UInt16 :=
  byte.toUInt16 <<< 8 ||| word >>> 8

/-- Whether a byte raises the line of the coin counter from where the byte before it left it. -/
def risesAfter (before byte : UInt8) : Bool :=
  byte &&& 1 != 0 && before &&& 1 == 0

/-- A byte for the coin counter is kept, and counted if it raises the line. -/
def countRise (coins : UInt8 × UInt32) (byte : UInt8) : UInt8 × UInt32 :=
  (byte, if risesAfter coins.1 byte then coins.2 + 1 else coins.2)

/-- What a byte makes of the latch. -/
def OutHandler.take : (handler : OutHandler) → handler.Latch → UInt8 → handler.Latch
  | .shiftOffset => fun _ byte => byte &&& 7
  | .shiftData => shiftIn
  | .sound _ => fun held byte => held.map fun _ => byte
  | .watchdogReset => fun (count : UInt64) _ => count + 1
  | .coinCounter => countRise
  | .videoSelect => fun _ byte => byte &&& 1
  | .flipScreen => fun _ byte => byte &&& 1 != 0
  | .colorBank => fun _ byte => byte &&& 7
  | .speech => fun _ byte => byte != 0
  | .speechData => fun _ byte => byte
  | .stub => fun _ _ => ()

/-- The bytes that are delivered to one handler, in order. -/
def bytesFor (handler : OutHandler) (deliveries : List Delivery) : List UInt8 :=
  (deliveries.filter fun delivery => delivery.handler = handler).map Delivery.value

theorem bytesFor_cons (handler : OutHandler) (delivery : Delivery) (deliveries : List Delivery) :
    bytesFor handler (delivery :: deliveries) =
      if delivery.handler = handler then delivery.value :: bytesFor handler deliveries
      else bytesFor handler deliveries := by
  unfold bytesFor
  rw [List.filter_cons]
  by_cases here : delivery.handler = handler
  · simp only [here, decide_true, ↓reduceIte, List.map_cons]
  · simp only [here, decide_false, ↓reduceIte, Bool.false_eq_true]

namespace Devices

/-- The latch of a sound channel; there are channels 1 to 8 only. -/
def soundLatch? (devices : Devices) (channel : UInt8) : Option UInt8 :=
  if channel = 0 then none else devices.sound[channel.toNat - 1]?

/-- What a handler's latch holds. -/
def latchOf (devices : Devices) : (handler : OutHandler) → handler.Latch
  | .shiftOffset => devices.shifter.offset
  | .shiftData => devices.shifter.value
  | .sound channel => devices.soundLatch? channel
  | .watchdogReset => devices.watchdogResets
  | .coinCounter => (devices.coinLatch, devices.coinsCounted)
  | .videoSelect => devices.videoPage
  | .flipScreen => devices.flipScreen
  | .colorBank => devices.colorBank
  | .speech => devices.speechActive
  | .speechData => devices.speechData
  | .stub => ()

/-- Apart from its own latch a byte for a sound channel changes nothing. -/
theorem write_sound (devices : Devices) (channel value : UInt8) :
    ∃ sound, devices.write (.sound channel) value = { devices with sound } := by
  simp only [write]
  split
  · exact ⟨devices.sound, rfl⟩
  · exact ⟨_, rfl⟩

theorem soundLatch?_write_self (devices : Devices) (channel value : UInt8) :
    (devices.write (.sound channel) value).soundLatch? channel =
      (devices.soundLatch? channel).map fun _ => value := by
  simp only [write, soundLatch?]
  split
  · rfl
  · rw [Vector.getElem?_setIfInBounds_self]
    split
    · rename_i bound
      rw [Vector.getElem?_eq_getElem bound]
      rfl
    · rename_i beyond
      rw [Vector.getElem?_eq_none (Nat.le_of_not_lt beyond)]
      rfl

theorem soundLatch?_write_of_ne (devices : Devices) {channel other : UInt8} (value : UInt8)
    (apart : other ≠ channel) :
    (devices.write (.sound channel) value).soundLatch? other = devices.soundLatch? other := by
  simp only [write, soundLatch?]
  by_cases silent : channel = 0
  · simp only [silent, ↓reduceIte]
  · by_cases otherSilent : other = 0
    · simp only [otherSilent, ↓reduceIte]
    · simp only [silent, otherSilent, ↓reduceIte]
      apply Vector.getElem?_setIfInBounds_ne
      have first : channel.toNat ≠ 0 := fun zero => silent (UInt8.toNat_inj.mp zero)
      have second : other.toNat ≠ 0 := fun zero => otherSilent (UInt8.toNat_inj.mp zero)
      have numbers : other.toNat ≠ channel.toNat := fun same => apart (UInt8.toNat_inj.mp same)
      omega

/-- A handler changes its own latch by its own rule. -/
theorem latchOf_write_self (devices : Devices) (handler : OutHandler) (value : UInt8) :
    (devices.write handler value).latchOf handler =
      handler.take (devices.latchOf handler) value := by
  cases handler with
  | sound channel => exact devices.soundLatch?_write_self channel value
  | _ => rfl

/-- No handler changes the latch of another one. -/
theorem latchOf_write_of_ne (devices : Devices) {handler other : OutHandler} (value : UInt8)
    (apart : other ≠ handler) :
    (devices.write handler value).latchOf other = devices.latchOf other := by
  by_cases sounds : ∃ channel, handler = .sound channel
  · obtain ⟨channel, rfl⟩ := sounds
    obtain ⟨sound, written⟩ := devices.write_sound channel value
    cases other with
    | sound another =>
        exact devices.soundLatch?_write_of_ne value fun same => apart (congrArg _ same)
    | _ => rw [written]; rfl
  · -- The other handlers write fields of their own, and no field stands for two of them.
    cases handler with
    | sound channel => exact absurd ⟨channel, rfl⟩ sounds
    | _ => cases other <;> first | rfl | exact absurd rfl apart

/-! ## Runs -/

/-- A latch takes a byte before the rest of a run or in it. -/
theorem foldl_take_bytesFor_cons (devices : Devices) (handler : OutHandler) (delivery : Delivery)
    (deliveries : List Delivery) :
    (bytesFor handler (delivery :: deliveries)).foldl handler.take (devices.latchOf handler) =
      (bytesFor handler deliveries).foldl handler.take
        ((devices.receive delivery).latchOf handler) := by
  rw [bytesFor_cons, receive]
  by_cases here : delivery.handler = handler
  · subst here
    rw [if_pos rfl, latchOf_write_self]
    rfl
  · rw [if_neg here, devices.latchOf_write_of_ne delivery.value (Ne.symm here)]

/-- A latch holds what the bytes for its handler made of it, one after the other. -/
theorem latchOf_foldl (devices : Devices) (handler : OutHandler) (deliveries : List Delivery) :
    (deliveries.foldl receive devices).latchOf handler =
      (bytesFor handler deliveries).foldl handler.take (devices.latchOf handler) := by
  induction deliveries generalizing devices with
  | nil => rfl
  | cons delivery deliveries ih => rw [List.foldl_cons, ih, foldl_take_bytesFor_cons]

theorem sound_eq_of_soundLatch? {first second : Devices}
    (same : ∀ channel, first.soundLatch? channel = second.soundLatch? channel) :
    first.sound = second.sound := by
  apply Vector.ext
  intro index bound
  have number : (UInt8.ofNat (index + 1)).toNat = index + 1 :=
    UInt8.toNat_ofNat_of_lt' (show index + 1 < 256 by omega)
  have positive : UInt8.ofNat (index + 1) ≠ 0 := by
    intro zero
    rw [zero] at number
    exact absurd number (Nat.succ_ne_zero index).symm
  have latches := same (UInt8.ofNat (index + 1))
  rw [soundLatch?, soundLatch?, if_neg positive, if_neg positive, number, Nat.add_sub_cancel,
    Vector.getElem?_eq_getElem bound, Vector.getElem?_eq_getElem bound] at latches
  exact Option.some_inj.mp latches

/-- The latches, the switches and the controls are all that there is. -/
theorem ext_latches {first second : Devices}
    (latches : ∀ handler, first.latchOf handler = second.latchOf handler)
    (rest : Untouched first second) : first = second := by
  have coins : (first.coinLatch, first.coinsCounted) = (second.coinLatch, second.coinsCounted) :=
    latches .coinCounter
  apply Devices.ext
  case shifter => exact Shifter.ext (latches .shiftData) (latches .shiftOffset)
  case sound => exact sound_eq_of_soundLatch? fun channel => latches (.sound channel)
  case videoPage => exact latches .videoSelect
  case flipScreen => exact latches .flipScreen
  case colorBank => exact latches .colorBank
  case speechActive => exact latches .speech
  case speechData => exact latches .speechData
  case watchdogResets => exact latches .watchdogReset
  case coinLatch => exact congrArg Prod.fst coins
  case coinsCounted => exact congrArg Prod.snd coins
  case dip => exact rest.dip.symm
  case periscope => exact rest.periscope.symm
  case input => exact rest.input.symm

/--
Two runs that give every handler the same bytes in the same order leave the same
devices: it does not matter how the handlers take turns and which ports are used.
-/
theorem outputs_commute (devices : Devices) (first second : List Delivery)
    (same : ∀ handler, bytesFor handler first = bytesFor handler second) :
    first.foldl receive devices = second.foldl receive devices := by
  apply ext_latches
  · intro handler
    rw [latchOf_foldl, latchOf_foldl, same]
  · have before := devices.untouched_foldl first
    have after := devices.untouched_foldl second
    exact ⟨after.dip.trans before.dip.symm, after.periscope.trans before.periscope.symm,
      after.input.trans before.input.symm⟩

/-- Two bytes for the shift register with other outputs between and behind them, on other ports. -/
theorem outputs_commute_shifted :
    let first : List Delivery :=
      [⟨.shiftData, 4, 0xAA⟩, ⟨.sound 1, 3, 1⟩, ⟨.shiftData, 4, 0x55⟩, ⟨.shiftOffset, 2, 3⟩,
        ⟨.sound 2, 5, 7⟩]
    let second : List Delivery :=
      [⟨.sound 2, 3, 7⟩, ⟨.shiftOffset, 6, 3⟩, ⟨.shiftData, 4, 0xAA⟩, ⟨.shiftData, 1, 0x55⟩,
        ⟨.sound 1, 5, 1⟩]
    (∀ handler, bytesFor handler first = bytesFor handler second) ∧
      first.foldl receive (new 8) = second.foldl receive (new 8) := by
  intro first second
  have same (handler : OutHandler) : bytesFor handler first = bytesFor handler second := by
    cases handler with
    | sound channel =>
        simp only [first, second, bytesFor_cons, reduceCtorEq, ↓reduceIte, OutHandler.sound.injEq]
        by_cases one : 1 = channel
        · subst one
          rfl
        · simp only [one, ↓reduceIte]
    | _ => rfl
  exact ⟨same, outputs_commute (new 8) first second same⟩

end Devices

end Cabinet
