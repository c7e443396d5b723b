import OrientLock.Pass

set_option autoImplicit false

/- The daemon `orientd` (orientd.c). Its `main` sets `effective_sensor` to `-1`, lets
`enumerate_sensors` choose the sensor and forks; the child loops on `poll_sensor_data`, which
hands each reading of that sensor to `set_orientation`. The calls are those of the sequential
model of `set_orientation`: no other task is inside the syscalls while the daemon runs. -/
namespace OrientLock

/-- `struct sensor_t` as `enumerate_sensors` tests it; its other fields are only printed. -/
structure SensorT where
  handle : Int32
  type : Int32
  deriving DecidableEq, Repr

/-- `SENSOR_TYPE_ORIENTATION` of `hardware/sensors.h`. -/
def sensorTypeOrientation : Int32 := 3

/-- `enumerate_sensors`: the value it leaves in `effective_sensor`, from the one before and the
list `get_sensors_list` returns; for `nr < 1` the list is empty and nothing changes. -/
def enumerateSensors (effectiveSensor : Int32) : List SensorT → Int32
  | [] => effectiveSensor
  | sensor :: rest =>
    -- the emulator hack: a later entry of the list overrides an earlier one
    if sensor.type == 2 && sensor.handle == 1 then enumerateSensors 2 rest
    else if sensor.type == 3 && sensor.handle == 3 then enumerateSensors sensorTypeOrientation rest
    else enumerateSensors effectiveSensor rest

/-- `sensors_event_t` as `poll_sensor_data` reads it: the `sensor` it comes from and its
`orientation` vector, each finite `float` given by its value. -/
structure SensorsEvent where
  sensor : Int32
  azimuth : ℚ
  pitch : ℚ
  roll : ℚ
  deriving DecidableEq, Repr

/-- The `struct dev_orientation orient` that `poll_sensor_data` fills from an event, each
`float` assigned to an `int` field. -/
def SensorsEvent.orient (event : SensorsEvent) : DevOrientation :=
  ⟨.ofInt (Int32Arith.truncate event.azimuth), .ofInt (Int32Arith.truncate event.pitch),
    .ofInt (Int32Arith.truncate event.roll)⟩

/-- The ranges the fields of `struct dev_orientation` are documented to keep (orientation.h). -/
def DevOrientation.Documented (orient : DevOrientation) : Prop :=
  0 ≤ orient.azimuth.toInt ∧ orient.azimuth.toInt < 360 ∧ -180 ≤ orient.pitch.toInt ∧
    orient.pitch.toInt ≤ 180 ∧ -90 ≤ orient.roll.toInt ∧ orient.roll.toInt ≤ 90

instance (orient : DevOrientation) : Decidable orient.Documented :=
  inferInstanceAs (Decidable (_ ∧ _ ∧ _ ∧ _ ∧ _ ∧ _))

/-- A reading within the ranges `sensors.h` documents for the orientation sensor. -/
def SensorsEvent.Documented (event : SensorsEvent) : Prop :=
  0 ≤ event.azimuth ∧ event.azimuth < 360 ∧ -180 ≤ event.pitch ∧ event.pitch ≤ 180 ∧
    -90 ≤ event.roll ∧ event.roll ≤ 90

instance (event : SensorsEvent) : Decidable event.Documented :=
  inferInstanceAs (Decidable (_ ∧ _ ∧ _ ∧ _ ∧ _ ∧ _))

theorem SensorsEvent.orient_documented {event : SensorsEvent} (documented : event.Documented) :
    event.orient.Documented := by
  obtain ⟨azimuthLow, azimuthHigh, pitchLow, pitchHigh, rollLow, rollHigh⟩ := documented
  have azimuth := Int32Arith.truncate_mem_Ico 0 360 le_rfl (by norm_num)
    (by exact_mod_cast azimuthLow) (by exact_mod_cast azimuthHigh)
  have pitch := Int32Arith.truncate_mem_Icc (-180) 180 (by norm_num) (by norm_num)
    (by exact_mod_cast pitchLow) (by exact_mod_cast pitchHigh)
  have roll := Int32Arith.truncate_mem_Icc (-90) 90 (by norm_num) (by norm_num)
    (by exact_mod_cast rollLow) (by exact_mod_cast rollHigh)
  have azimuthFits : (Int32.ofInt (Int32Arith.truncate event.azimuth)).toInt =
      Int32Arith.truncate event.azimuth := Int32.toInt_ofInt_of_le (by omega) (by omega)
  have pitchFits : (Int32.ofInt (Int32Arith.truncate event.pitch)).toInt =
      Int32Arith.truncate event.pitch := Int32.toInt_ofInt_of_le (by omega) (by omega)
  have rollFits : (Int32.ofInt (Int32Arith.truncate event.roll)).toInt =
      Int32Arith.truncate event.roll := Int32.toInt_ofInt_of_le (by omega) (by omega)
  simp only [DevOrientation.Documented, SensorsEvent.orient, azimuthFits, pitchFits, rollFits]
  omega

/-- `poll_sensor_data` run by the daemon's task `pid` over the events `poll` returned (none when
it fails): `syscall(376, &orient)` for each event of `effective_sensor`, in buffer order, with
`orient` on the stack. It returns the calls' return values, `perror` printing each nonzero one,
and the state after them; `none` when a call spins forever on a lock another task holds. -/
def pollSensorData (effectiveSensor : Int32) (pid : Pid) :
    List SensorsEvent → Kernel → Option (List Int × Kernel)
  | [], s => some ([], s)
  | event :: rest, s =>
    if event.sensor != effectiveSensor then pollSensorData effectiveSensor pid rest s
    else
      match setOrientation s pid (.mapped event.orient) with
      | none => none
      | some (rc, s) =>
        (pollSensorData effectiveSensor pid rest s).map fun later => (rc :: later.1, later.2)

/-- The daemon's `while (1) poll_sensor_data(sensors_device)`, over the batches of events its
first turns get from `poll`. -/
def orientdLoop (effectiveSensor : Int32) (pid : Pid) :
    List (List SensorsEvent) → Kernel → Option (List Int × Kernel)
  | [], s => some ([], s)
  | buffer :: rest, s =>
    match pollSensorData effectiveSensor pid buffer s with
    | none => none
    | some (rcs, s) =>
      (orientdLoop effectiveSensor pid rest s).map fun later => (rcs ++ later.1, later.2)

/-- `main` of `orientd` once `open_compass` has succeeded: `effective_sensor = -1`,
`enumerate_sensors` over the sensor list, then the loop in the child that `fork` leaves as task
`pid`; the parent exits without a syscall. -/
def orientd (sensors : List SensorT) (pid : Pid) (polls : List (List SensorsEvent)) (s : Kernel) :
    Option (List Int × Kernel) :=
  orientdLoop (enumerateSensors (-1) sensors) pid polls s

/-- The orientations the daemon hands to the kernel: those of the events of `effective_sensor`,
in order. -/
def forwarded (effectiveSensor : Int32) (events : List SensorsEvent) : List DevOrientation :=
  (events.filter fun event => event.sensor == effectiveSensor).map SensorsEvent.orient

section Poll

variable {effectiveSensor : Int32} {pid : Pid}

@[simp] theorem forwarded_nil : forwarded effectiveSensor [] = [] := rfl

theorem forwarded_cons_of_eq {event : SensorsEvent} (rest : List SensorsEvent)
    (same : event.sensor = effectiveSensor) :
    forwarded effectiveSensor (event :: rest) = event.orient :: forwarded effectiveSensor rest := by
  simp [forwarded, same]

theorem forwarded_cons_of_ne {event : SensorsEvent} (rest : List SensorsEvent)
    (other : event.sensor ≠ effectiveSensor) :
    forwarded effectiveSensor (event :: rest) = forwarded effectiveSensor rest := by
  simp [forwarded, other]

theorem pollSensorData_of_ne {event : SensorsEvent} (rest : List SensorsEvent) (s : Kernel)
    (other : event.sensor ≠ effectiveSensor) :
    pollSensorData effectiveSensor pid (event :: rest) s = pollSensorData effectiveSensor pid rest s := by
  simp [pollSensorData, other]

theorem pollSensorData_of_eq {event : SensorsEvent} (rest : List SensorsEvent) (s : Kernel)
    (same : event.sensor = effectiveSensor) :
    pollSensorData effectiveSensor pid (event :: rest) s =
      (setOrientation s pid (.mapped event.orient)).bind fun call =>
        (pollSensorData effectiveSensor pid rest call.2).map fun later => (call.1 :: later.1, later.2) := by
  simp only [pollSensorData, same, bne_self_eq_false, Bool.false_eq_true, if_false]
  cases setOrientation s pid (.mapped event.orient) <;> rfl

theorem pollSensorData_append (events more : List SensorsEvent) (s : Kernel) :
    pollSensorData effectiveSensor pid (events ++ more) s =
      (pollSensorData effectiveSensor pid events s).bind fun first =>
        (pollSensorData effectiveSensor pid more first.2).map fun second =>
          (first.1 ++ second.1, second.2) := by
  induction events generalizing s with
  | nil => simp [pollSensorData]
  | cons event rest ih =>
    by_cases same : event.sensor = effectiveSensor
    · rw [List.cons_append, pollSensorData_of_eq _ s same, pollSensorData_of_eq _ s same]
      cases setOrientation s pid (.mapped event.orient) with
      | none => rfl
      | some call =>
        simp only [Option.bind_some, ih]
        cases pollSensorData effectiveSensor pid rest call.2 <;> simp [Function.comp_def]
    · rw [List.cons_append, pollSensorData_of_ne _ s same, pollSensorData_of_ne _ s same, ih]

theorem orientdLoop_eq (polls : List (List SensorsEvent)) (s : Kernel) :
    orientdLoop effectiveSensor pid polls s = pollSensorData effectiveSensor pid polls.flatten s := by
  induction polls generalizing s with
  | nil => rfl
  | cons buffer rest ih =>
    rw [List.flatten_cons, pollSensorData_append, orientdLoop]
    cases pollSensorData effectiveSensor pid buffer s with
    | none => rfl
    | some first => simp [ih]

theorem pollSensorData_returned :
    ∀ (events : List SensorsEvent) (s : Kernel) {rcs : List Int} {t : Kernel},
      pollSensorData effectiveSensor pid events s = some (rcs, t) →
      rcs = List.replicate (forwarded effectiveSensor events).length 0 ∧
        t.currentOrient = (forwarded effectiveSensor events).getLastD s.currentOrient ∧
        t.setLock = s.setLock ∧ t.waitersLock = s.waitersLock
  | [], s, _, _, ran => by
    cases ran
    exact ⟨rfl, rfl, rfl, rfl⟩
  | event :: rest, s, rcs, t, ran => by
    by_cases same : event.sensor = effectiveSensor
    · rw [pollSensorData_of_eq _ s same, Option.bind_eq_some_iff] at ran
      obtain ⟨⟨rc, called⟩, returned, ran⟩ := ran
      obtain ⟨⟨later, t'⟩, ranRest, joined⟩ := Option.map_eq_some_iff.mp ran
      cases joined
      obtain ⟨zero, unlocked, free, -⟩ := setOrientation_of_returned returned
      obtain ⟨orient, unlockedAfter, freeAfter⟩ := setOrientation_returned_state returned
      obtain ⟨zeros, last, setLock, waitersLock⟩ := pollSensorData_returned rest called ranRest
      rw [forwarded_cons_of_eq rest same, List.length_cons, List.replicate_succ, List.getLastD_cons]
      exact ⟨by rw [zero, zeros], by rw [last, orient], by rw [setLock, unlockedAfter, unlocked],
        by rw [waitersLock, freeAfter, free]⟩
    · rw [pollSensorData_of_ne _ s same] at ran
      rw [forwarded_cons_of_ne rest same]
      exact pollSensorData_returned rest s ran

theorem pollSensorData_unforwarded :
    ∀ (events : List SensorsEvent) (s : Kernel), forwarded effectiveSensor events = [] →
      pollSensorData effectiveSensor pid events s = some ([], s)
  | [], _, _ => rfl
  | event :: rest, s, nothing => by
    by_cases same : event.sensor = effectiveSensor
    · rw [forwarded_cons_of_eq rest same] at nothing
      cases nothing
    · rw [forwarded_cons_of_ne rest same] at nothing
      rw [pollSensorData_of_ne _ s same]
      exact pollSensorData_unforwarded rest s nothing

theorem pollSensorData_isSome :
    ∀ (events : List SensorsEvent) (s : Kernel), s.setLock = none → s.waitersLock = none →
      (pollSensorData effectiveSensor pid events s).isSome
  | [], _, _, _ => rfl
  | event :: rest, s, unlocked, free => by
    by_cases same : event.sensor = effectiveSensor
    · rw [pollSensorData_of_eq _ s same, setOrientation_of_free pid event.orient unlocked free,
        Option.bind_some, Option.isSome_map]
      exact pollSensorData_isSome rest _ rfl rfl
    · rw [pollSensorData_of_ne _ s same]
      exact pollSensorData_isSome rest s unlocked free

theorem pollSensorData_leaves_blocked :
    ∀ (events : List SensorsEvent) (s : Kernel) {rcs : List Int} {t : Kernel},
      s.waitersList.Nodup → pollSensorData effectiveSensor pid events s = some (rcs, t) →
      forwarded effectiveSensor events ≠ [] → ∀ entry ∈ t.waitersList, Blocked t t.currentOrient entry
  | [], _, _, _, _, _, nonempty => absurd rfl nonempty
  | event :: rest, s, rcs, t, linked, ran, nonempty => by
    by_cases same : event.sensor = effectiveSensor
    · rw [pollSensorData_of_eq _ s same, Option.bind_eq_some_iff] at ran
      obtain ⟨⟨rc, called⟩, returned, ran⟩ := ran
      obtain ⟨⟨later, t'⟩, ranRest, joined⟩ := Option.map_eq_some_iff.mp ran
      cases joined
      obtain ⟨zero, -, -, -⟩ := setOrientation_of_returned returned
      subst zero
      by_cases last : forwarded effectiveSensor rest = []
      · rw [pollSensorData_unforwarded rest called last, Option.some.injEq, Prod.mk.injEq] at ranRest
        obtain ⟨-, rfl⟩ := ranRest
        rw [(setOrientation_returned_state returned).1]
        exact setOrientation_leaves_blocked s pid event.orient _ linked returned
      · obtain ⟨added, -, -, kept, -⟩ :=
          setOrientation_partitions_waiters s pid event.orient called linked returned
        exact pollSensorData_leaves_blocked rest called (linked.sublist kept) ranRest last
    · rw [pollSensorData_of_ne _ s same] at ran
      rw [forwarded_cons_of_ne rest same] at nonempty
      exact pollSensorData_leaves_blocked rest s linked ran nonempty

end Poll

/-- `orientd` alone in the kernel: every `set_orientation` it makes returns `0`, and
`current_orient` ends at the last reading of `effective_sensor` it handed over. -/
theorem orientd_alone (sensors : List SensorT) (pid : Pid) (polls : List (List SensorsEvent)) (s : Kernel)
    (unlocked : s.setLock = none) (free : s.waitersLock = none) (linked : s.waitersList.Nodup) :
    ∃ t, orientd sensors pid polls s =
        some (List.replicate (forwarded (enumerateSensors (-1) sensors) polls.flatten).length 0, t) ∧
      t.setLock = none ∧ t.waitersLock = none ∧
      t.currentOrient = (forwarded (enumerateSensors (-1) sensors) polls.flatten).getLastD s.currentOrient ∧
      (forwarded (enumerateSensors (-1) sensors) polls.flatten ≠ [] →
        ∀ entry ∈ t.waitersList, Blocked t t.currentOrient entry) := by
  rw [orientd, orientdLoop_eq]
  obtain ⟨⟨rcs, t⟩, ran⟩ :=
    Option.isSome_iff_exists.mp (pollSensorData_isSome polls.flatten s unlocked free)
  obtain ⟨zeros, last, setLock, waitersLock⟩ := pollSensorData_returned polls.flatten s ran
  exact ⟨t, zeros ▸ ran, setLock.trans unlocked, waitersLock.trans free, last,
    pollSensorData_leaves_blocked polls.flatten s linked ran⟩

/-- The emulator's accelerometer, magnetic field and orientation sensors, at handles 0, 1, 2. -/
def emulatorSensors : List SensorT := [⟨0, 1⟩, ⟨1, 2⟩, ⟨2, 3⟩]

/-- Two turns of the loop: readings of the chosen sensor, 2, and one of another sensor. -/
def compassPolls : List (List SensorsEvent) :=
  [[⟨2, 359.9, -0.5, 10⟩, ⟨0, 1, 1, 1⟩], [⟨2, 5, -5, 10⟩]]

theorem orientd_alone_threeWaiters :
    threeWaiters.setLock = none ∧ threeWaiters.waitersLock = none ∧ threeWaiters.waitersList.Nodup ∧
      ∃ t, orientd emulatorSensors 9 compassPolls threeWaiters =
          some (List.replicate
            (forwarded (enumerateSensors (-1) emulatorSensors) compassPolls.flatten).length 0, t) ∧
        t.setLock = none ∧ t.waitersLock = none ∧
        t.currentOrient =
          (forwarded (enumerateSensors (-1) emulatorSensors) compassPolls.flatten).getLastD
            threeWaiters.currentOrient ∧
        (forwarded (enumerateSensors (-1) emulatorSensors) compassPolls.flatten ≠ [] →
          ∀ entry ∈ t.waitersList, Blocked t t.currentOrient entry) := by
  have linked : threeWaiters.waitersList.Nodup := by decide
  exact ⟨rfl, rfl, linked, orientd_alone emulatorSensors 9 compassPolls threeWaiters rfl rfl linked⟩

/-- `orientd` keeps `current_orient` within the ranges `struct dev_orientation` documents when its
sensor keeps to those of `sensors.h`. -/
theorem orientd_keeps_documented (sensors : List SensorT) (pid : Pid) (polls : List (List SensorsEvent))
    (s : Kernel) {rcs : List Int} {t : Kernel} (ran : orientd sensors pid polls s = some (rcs, t))
    (readings : ∀ event ∈ polls.flatten, event.sensor = enumerateSensors (-1) sensors → event.Documented)
    (before : s.currentOrient.Documented) : t.currentOrient.Documented := by
  rw [orientd, orientdLoop_eq] at ran
  rw [(pollSensorData_returned polls.flatten s ran).2.1]
  rcases List.mem_cons.mp List.getLastD_mem_cons with start | handed
  · exact start ▸ before
  · obtain ⟨event, kept, handedOver⟩ := List.mem_map.mp handed
    obtain ⟨inside, same⟩ := List.mem_filter.mp kept
    rw [← handedOver]
    exact SensorsEvent.orient_documented (readings event inside (beq_iff_eq.mp same))

theorem orientd_keeps_documented_threeWaiters :
    ∃ rcs t, orientd emulatorSensors 9 compassPolls threeWaiters = some (rcs, t) ∧
      (∀ event ∈ compassPolls.flatten, event.sensor = enumerateSensors (-1) emulatorSensors →
        event.Documented) ∧
      threeWaiters.currentOrient.Documented ∧ t.currentOrient.Documented := by
  obtain ⟨⟨rcs, t⟩, ran⟩ := Option.isSome_iff_exists.mp
    (show (orientd emulatorSensors 9 compassPolls threeWaiters).isSome = true by decide +kernel)
  have readings : ∀ event ∈ compassPolls.flatten, event.sensor = enumerateSensors (-1) emulatorSensors →
      event.Documented := by decide +kernel
  have before : threeWaiters.currentOrient.Documented := by decide +kernel
  exact ⟨rcs, t, ran, readings, before,
    orientd_keeps_documented emulatorSensors 9 compassPolls threeWaiters ran readings before⟩

end OrientLock
