import ThermalManager.Policy.SensorCluster

/-!
# Callbacks over IPC

The proxies and the stubs of the temperature and the action callback. A `MessageParcel` is a queue
of typed values; a read fails when the next value is missing or has another type. The two
interfaces differ in their names, the limit of their stubs and the type of a map value.
-/

namespace ThermalManager

inductive ParcelValue where
  | interfaceToken (descriptor : String)
  | uint32 (value : Nat)
  | int32 (value : Int)
  | string (value : String)
  deriving DecidableEq, Repr

abbrev MessageParcel := List ParcelValue

/-- The results of a request; `objectStub` stands for those of `IPCObjectStub`. -/
inductive ErrCode where
  | errOk
  | readParcelErrorThermal
  | getThermalServiceFailed
  | exceedParamLimit
  | objectStub (code : Int)
  deriving DecidableEq, Repr

namespace MessageParcel

/-- `ReadInterfaceToken`; empty when it fails. -/
def readInterfaceToken : MessageParcel → String × MessageParcel
  | .interfaceToken descriptor :: rest => (descriptor, rest)
  | data => ("", data)

def readUint32 : MessageParcel → Option (Nat × MessageParcel)
  | .uint32 value :: rest => some (value, rest)
  | _ => none

def readInt32 : MessageParcel → Option (Int × MessageParcel)
  | .int32 value :: rest => some (value, rest)
  | _ => none

def readString : MessageParcel → Option (String × MessageParcel)
  | .string value :: rest => some (value, rest)
  | _ => none

theorem readUint32_eq_some_iff {data rest : MessageParcel} {value : Nat} :
    readUint32 data = some (value, rest) ↔ data = .uint32 value :: rest := by
  rcases data with _ | ⟨_ | _ | _ | _, tail⟩ <;> simp [readUint32]

theorem readInt32_eq_some_iff {data rest : MessageParcel} {value : Int} :
    readInt32 data = some (value, rest) ↔ data = .int32 value :: rest := by
  rcases data with _ | ⟨_ | _ | _ | _, tail⟩ <;> simp [readInt32]

theorem readString_eq_some_iff {data rest : MessageParcel} {value : String} :
    readString data = some (value, rest) ↔ data = .string value :: rest := by
  rcases data with _ | ⟨_ | _ | _ | _, tail⟩ <;> simp [readString]

end MessageParcel

open MessageParcel

/-! ### A callback interface -/

/-- What the temperature and the action callback do not share. -/
structure CallbackInterface (β : Type) where
  descriptor : String
  code : Nat
  maxMapNum : Nat
  writeValue : β → ParcelValue
  readValue : MessageParcel → Option (β × MessageParcel)
  descriptor_ne : descriptor ≠ ""
  readValue_eq_some_iff : ∀ data value rest,
    readValue data = some (value, rest) ↔ data = writeValue value :: rest

/-- What a request comes to: its result and the maps the client's callback is called with. -/
structure Handled (β : Type) where
  ret : ErrCode
  calls : List (Map String β)

namespace CallbackInterface

variable {β : Type} (i : CallbackInterface β)

/-- The entries as the proxy writes them. -/
def writePairs : List (String × β) → MessageParcel
  | [] => []
  | entry :: rest => .string entry.1 :: i.writeValue entry.2 :: writePairs rest

/-- The parcel of a map. `WriteUint32` takes the size of the map as a `uint32_t`. -/
def writeMap (cbMap : Map String β) : MessageParcel :=
  .interfaceToken i.descriptor :: .uint32 (cbMap.size % 2 ^ 32) :: i.writePairs cbMap.toList

/-- The proxy; nothing for a remote object that is gone. -/
def proxyOnChanged (sendRequest : Option (Nat → MessageParcel → ErrCode)) (cbMap : Map String β) :
    Bool :=
  match sendRequest with
  | none => false
  | some sendRequest => sendRequest i.code (i.writeMap cbMap) == .errOk

/-- `for (uint32_t i = 0; i < size; i++)` -/
def readPairs : Nat → MessageParcel → Map String β → Option (Map String β)
  | 0, _, cbMap => some cbMap
  | size + 1, data, cbMap => do
      let (type, data) ← readString data
      let (value, data) ← i.readValue data
      readPairs size data (cbMap.insert type value)

/-- The stub behind the descriptor. -/
def onChangedStub (data : MessageParcel) : Handled β :=
  match readUint32 data with
  | none => { ret := .readParcelErrorThermal, calls := [] }
  | some (size, data) =>
      if size ≤ 0 ∨ size > i.maxMapNum then { ret := .exceedParamLimit, calls := [] }
      else
        match i.readPairs size data ∅ with
        | none => { ret := .readParcelErrorThermal, calls := [] }
        | some cbMap => { ret := .errOk, calls := [cbMap] }

/-- `OnRemoteRequest`. Requests with another code go to `IPCObjectStub`. -/
def onRemoteRequest (objectStub : Nat → MessageParcel → Int) (code : Nat) (data : MessageParcel) :
    Handled β :=
  let (remoteDescripter, data) := readInterfaceToken data
  if i.descriptor ≠ remoteDescripter then { ret := .getThermalServiceFailed, calls := [] }
  else if code = i.code then i.onChangedStub data
  else { ret := .objectStub (objectStub code data), calls := [] }

end CallbackInterface

/-! ### The two interfaces -/

def maxTempMapNum : Nat := 2000
def maxActionMapNum : Nat := 2000

def thermalTemperatureChanged : Nat := 0
def thermalActionChanged : Nat := 0

/-- `IThermalTempCallback` -/
def thermalTempCallback : CallbackInterface Int where
  descriptor := "ohos.powermgr.IThermalTempCallback"
  code := thermalTemperatureChanged
  maxMapNum := maxTempMapNum
  writeValue := .int32
  readValue := readInt32
  descriptor_ne := by decide
  readValue_eq_some_iff _ _ _ := readInt32_eq_some_iff

/-- `IThermalActionCallback` -/
def thermalActionCallback : CallbackInterface String where
  descriptor := "ohos.powermgr.IThermalActionCallback"
  code := thermalActionChanged
  maxMapNum := maxActionMapNum
  writeValue := .string
  readValue := readString
  descriptor_ne := by decide
  readValue_eq_some_iff _ _ _ := readString_eq_some_iff

/-! ### What the stub accepts -/

namespace CallbackInterface

variable {β : Type} (i : CallbackInterface β)

/-- The map that assigning the pairs one after the other leaves. -/
def mapOf (pairs : List (String × β)) : Map String β := (∅ : Map String β).insertMany pairs

/-- The right descriptor, a count within the limit and that many complete pairs. -/
def Complete (data : MessageParcel) (pairs : List (String × β)) : Prop :=
  1 ≤ pairs.length ∧ pairs.length ≤ i.maxMapNum ∧
    ∃ rest, data =
      .interfaceToken i.descriptor :: .uint32 pairs.length :: (i.writePairs pairs ++ rest)

variable {i}

theorem readPairs_eq_some_iff {size : Nat} {data : MessageParcel} {cbMap result : Map String β} :
    i.readPairs size data cbMap = some result ↔
      ∃ pairs rest, pairs.length = size ∧ data = i.writePairs pairs ++ rest ∧
        result = cbMap.insertMany pairs := by
  induction size generalizing data cbMap with
  | zero =>
    constructor
    · intro h
      exact ⟨[], data, rfl, rfl, (Option.some.inj h).symm⟩
    · rintro ⟨pairs, rest, hlength, -, rfl⟩
      rw [List.eq_nil_of_length_eq_zero hlength]
      rfl
  | succ size ih =>
    rw [readPairs]
    constructor
    · intro h
      obtain ⟨⟨type, afterType⟩, htype, h⟩ := Option.bind_eq_some_iff.mp h
      obtain ⟨⟨value, afterValue⟩, hvalue, h⟩ := Option.bind_eq_some_iff.mp h
      obtain ⟨pairs, rest, hlength, rfl, rfl⟩ := ih.mp h
      rw [readString_eq_some_iff] at htype
      rw [i.readValue_eq_some_iff] at hvalue
      refine ⟨(type, value) :: pairs, rest, congrArg (· + 1) hlength, ?_, ?_⟩
      · rw [htype, hvalue]
        rfl
      · rw [Std.ExtTreeMap.insertMany_cons]
    · rintro ⟨_ | ⟨⟨type, value⟩, pairs⟩, rest, hlength, rfl, rfl⟩
      · cases hlength
      · apply Option.bind_eq_some_iff.mpr
        refine ⟨_, readString_eq_some_iff.mpr rfl, ?_⟩
        apply Option.bind_eq_some_iff.mpr
        refine ⟨_, (i.readValue_eq_some_iff _ _ _).mpr rfl, ?_⟩
        exact ih.mpr ⟨pairs, rest, Nat.succ.inj hlength, rfl, Std.ExtTreeMap.insertMany_cons⟩

theorem onRemoteRequest_of_complete (objectStub : Nat → MessageParcel → Int)
    {data : MessageParcel} {pairs : List (String × β)} (h : i.Complete data pairs) :
    i.onRemoteRequest objectStub i.code data = { ret := .errOk, calls := [mapOf pairs] } := by
  obtain ⟨hpos, hle, rest, rfl⟩ := h
  have hread : i.readPairs pairs.length (i.writePairs pairs ++ rest) ∅ = some (mapOf pairs) :=
    readPairs_eq_some_iff.mpr ⟨pairs, rest, rfl, rfl, rfl⟩
  have hsize : ¬ (pairs.length ≤ 0 ∨ pairs.length > i.maxMapNum) := by omega
  rw [onRemoteRequest, readInterfaceToken]
  simp only [ne_eq, not_true_eq_false, if_false, if_true]
  rw [onChangedStub, readUint32]
  simp only [if_neg hsize, hread]

theorem readInterfaceToken_eq {data : MessageParcel}
    (h : (readInterfaceToken data).1 = i.descriptor) :
    data = .interfaceToken i.descriptor :: (readInterfaceToken data).2 := by
  rcases data with _ | ⟨_ | _ | _ | _, tail⟩
  case cons.interfaceToken descriptor => rw [← h, readInterfaceToken]
  all_goals exact absurd h.symm i.descriptor_ne

theorem onRemoteRequest_of_not_complete (objectStub : Nat → MessageParcel → Int)
    {data : MessageParcel} (h : ¬ ∃ pairs, i.Complete data pairs) :
    (i.onRemoteRequest objectStub i.code data).ret ≠ .errOk ∧
      (i.onRemoteRequest objectStub i.code data).calls = [] := by
  rw [onRemoteRequest]
  by_cases htoken : i.descriptor = (readInterfaceToken data).1
  · have hdata := readInterfaceToken_eq htoken.symm
    simp only [ne_eq, htoken, not_true_eq_false, if_false, if_true]
    rw [onChangedStub]
    split
    case h_1 => simp
    case h_2 size afterSize hsize =>
      split
      case isTrue => simp
      case isFalse hrange =>
        split
        case h_1 => simp
        case h_2 cbMap hread =>
          -- the reads that succeeded spell out a complete parcel
          obtain ⟨pairs, rest, hlength, hpairs, -⟩ := readPairs_eq_some_iff.mp hread
          rw [readUint32_eq_some_iff.mp hsize, hpairs, ← hlength] at hdata
          exact absurd ⟨pairs, by omega, by omega, rest, hdata⟩ h
  · simp [htoken]

theorem onRemoteRequest_of_ne (objectStub : Nat → MessageParcel → Int) {code : Nat}
    (hcode : code ≠ i.code) (data : MessageParcel) :
    (i.onRemoteRequest objectStub code data).calls = [] := by
  rw [onRemoteRequest]
  simp only [if_neg hcode]
  split <;> rfl

/-! ### The round trip -/

theorem mapOf_toList (cbMap : Map String β) : mapOf cbMap.toList = cbMap := by
  rw [mapOf, ← Std.ExtTreeMap.ofList_eq_insertMany_empty]
  ext type value
  by_cases hmem : type ∈ cbMap
  · obtain ⟨stored, hstored⟩ := Option.isSome_iff_exists.mp
      (Std.ExtTreeMap.mem_iff_isSome_getElem?.mp hmem)
    rw [hstored, Std.ExtTreeMap.getElem?_ofList_of_mem (Std.ReflCmp.compare_self)
      Std.ExtTreeMap.distinct_keys_toList
      (Std.ExtTreeMap.mem_toList_iff_getElem?_eq_some.mpr hstored)]
  · rw [Std.ExtTreeMap.getElem?_eq_none hmem, Std.ExtTreeMap.getElem?_ofList_of_contains_eq_false]
    rw [Std.ExtTreeMap.map_fst_toList_eq_keys]
    simpa using hmem

theorem complete_writeMap {cbMap : Map String β} (hpos : 1 ≤ cbMap.size)
    (hle : cbMap.size ≤ i.maxMapNum) (hmax : i.maxMapNum < 2 ^ 32) :
    i.Complete (i.writeMap cbMap) cbMap.toList := by
  rw [Complete, Std.ExtTreeMap.length_toList]
  refine ⟨hpos, hle, [], ?_⟩
  rw [writeMap, Nat.mod_eq_of_lt (lt_of_le_of_lt hle hmax), List.append_nil]

/-- The one request that the proxy makes for the map, whatever the remote object answers. -/
def Sends (cbMap : Map String β) (code : Nat) (data : MessageParcel) : Prop :=
  ∀ sendRequest : Nat → MessageParcel → ErrCode,
    i.proxyOnChanged (some sendRequest) cbMap = (sendRequest code data == .errOk)

theorem sends_iff {cbMap : Map String β} {code : Nat} {data : MessageParcel} :
    i.Sends cbMap code data ↔ code = i.code ∧ data = i.writeMap cbMap := by
  constructor
  · intro hsends
    classical
    -- a remote object that accepts nothing but the request for the map
    have hone := hsends fun code' data' =>
      if code' = i.code ∧ data' = i.writeMap cbMap then .errOk else .readParcelErrorThermal
    rw [proxyOnChanged, if_pos ⟨rfl, rfl⟩, beq_self_eq_true, eq_comm, beq_iff_eq] at hone
    by_contra hother
    rw [if_neg hother] at hone
    cases hone
  · rintro ⟨rfl, rfl⟩ sendRequest
    rfl

variable (i) in
/-- What the proxy writes the stub hands on, and it hands on nothing but complete parcels. -/
structure Survives (objectStub : Nat → MessageParcel → Int) : Prop where
  roundTrip : ∀ cbMap : Map String β, 1 ≤ cbMap.size → cbMap.size ≤ i.maxMapNum →
    i.onRemoteRequest objectStub i.code (i.writeMap cbMap) =
        { ret := .errOk, calls := [cbMap] } ∧
      i.proxyOnChanged (some fun code data => (i.onRemoteRequest objectStub code data).ret)
        cbMap = true
  delivered : ∀ cbMap : Map String β, 1 ≤ cbMap.size → cbMap.size ≤ i.maxMapNum →
    ∃ code data, i.Sends cbMap code data ∧ ∀ code' data', i.Sends cbMap code' data' →
      i.onRemoteRequest objectStub code' data' = { ret := .errOk, calls := [cbMap] }
  complete : ∀ data pairs, i.Complete data pairs →
    i.onRemoteRequest objectStub i.code data = { ret := .errOk, calls := [mapOf pairs] }
  rejected : ∀ data, (¬ ∃ pairs, i.Complete data pairs) →
    (i.onRemoteRequest objectStub i.code data).ret ≠ .errOk ∧
      (i.onRemoteRequest objectStub i.code data).calls = []
  otherCode : ∀ code data, code ≠ i.code → (i.onRemoteRequest objectStub code data).calls = []

theorem survives (objectStub : Nat → MessageParcel → Int) (hmax : i.maxMapNum < 2 ^ 32) :
    i.Survives objectStub where
  roundTrip cbMap hpos hle := by
    have hrun := onRemoteRequest_of_complete objectStub (complete_writeMap hpos hle hmax)
    rw [mapOf_toList] at hrun
    refine ⟨hrun, ?_⟩
    rw [proxyOnChanged, hrun]
    rfl
  delivered cbMap hpos hle := by
    refine ⟨i.code, i.writeMap cbMap, sends_iff.mpr ⟨rfl, rfl⟩, ?_⟩
    intro code data hsends
    obtain ⟨rfl, rfl⟩ := sends_iff.mp hsends
    rw [onRemoteRequest_of_complete objectStub (complete_writeMap hpos hle hmax), mapOf_toList]
  complete _ _ := onRemoteRequest_of_complete objectStub
  rejected _ := onRemoteRequest_of_not_complete objectStub
  otherCode _ data hcode := onRemoteRequest_of_ne objectStub hcode data

end CallbackInterface

/-- **Callback maps survive the IPC boundary.** -/
theorem callbackMaps_survive (objectStub : Nat → MessageParcel → Int) :
    thermalTempCallback.Survives objectStub ∧ thermalActionCallback.Survives objectStub :=
  ⟨CallbackInterface.survives objectStub (by decide),
    CallbackInterface.survives objectStub (by decide)⟩

end ThermalManager
