import Huashan.Ril.Dispatch
import Huashan.Run

/-!
# Huashan.Ril.Nitz

The NITZ time. An arrival notes its receive time in `ril_service.cpp` and calls the indication of
the client, both under the write lock; without a client `ril.cpp` stores a copy, after it gave up
the lock, and resends it when a client has connected. One thread serves the connections, so that a
connection is complete before the next one begins.

A copy has the `datalen` bytes of the vendor and is resent as a string, which is read on behind
them when none of them is a NUL.

`timely_of_steps`: the deliveries are in order, carry their own times and leave nothing out, in
the runs in which no call meets a client that died unnoticed, no arrival overtakes a copy, and a
copy is stored before the resend and ends within its bytes.
-/

namespace Huashan
namespace Ril

/-- An arrival: the memory of the vendor, and `elapsedRealtime` in milliseconds. -/
structure NitzArrival where
  /-- The `datalen` bytes; none with `NULL`. -/
  data : Bytes
  /-- The bytes behind them, up to a NUL. -/
  behind : Bytes
  elapsedRealtime : Int
  deriving DecidableEq, Repr

/-- The string that the vendor gives. -/
def NitzArrival.nitzTime (a : NitzArrival) : Bytes := cStr (a.data ++ a.behind)

/-- A successful call of `nitzTimeReceived`. `arrival` is the number of the arrival. -/
structure NitzDelivery where
  client : Nat
  arrival : Nat
  nitzTime : Bytes
  receivedTime : Int
  deriving DecidableEq, Repr

/-- The bytes that `s_lastNITZTimeDataSize` counts, with the number of their arrival. -/
structure NitzTimeData where
  data : Bytes
  arrival : Nat
  deriving DecidableEq, Repr

structure NitzState where
  /-- The client of `mRadioIndication`. -/
  radioIndication : Option Nat
  nitzTimeReceived : Int
  /-- What the arrivals that gave up the lock have yet to copy, the first one first. -/
  uncopied : List NitzTimeData
  lastNitzTimeData : Option NitzTimeData
  /-- Between `setResponseFunctions` and the end of `onNewCommandConnect`. -/
  connecting : Bool
  dead : List Nat
  /-- All arrivals, the first one first. -/
  arrivals : List NitzArrival
  /-- All deliveries, the last one first. -/
  delivered : List NitzDelivery
  deriving DecidableEq, Repr

/-- The conversion to `long`, which has 32 bits in this build. -/
def toLong (n : Int) : Int := n.bmod (2 ^ 32)

namespace NitzState

def init : NitzState where
  radioIndication := none
  nitzTimeReceived := 0
  uncopied := []
  lastNitzTimeData := none
  connecting := false
  dead := []
  arrivals := []
  delivered := []

/-- The client that is called is dead. -/
def CallsDead (s : NitzState) : Prop := ∃ client ∈ s.radioIndication, client ∈ s.dead

instance (s : NitzState) : Decidable s.CallsDead :=
  inferInstanceAs (Decidable (∃ client ∈ s.radioIndication, client ∈ s.dead))

/-- `checkReturnStatus` of a call that failed. -/
def resetCallbacks (s : NitzState) : NitzState := { s with radioIndication := none }

/-- `behind` are the bytes in memory behind those of `response`. -/
def nitzTimeReceivedInd (s : NitzState) (response : NitzTimeData) (behind : Bytes) :
    NitzState × Int :=
  match s.radioIndication with
  | none => (s, -1)
  | some client =>
    if response.data.length = 0 then (s, 0)
    else if client ∈ s.dead then (s.resetCallbacks, 0)
    else
      let nitzTime := cStr (response.data ++ behind)
      let call := ⟨client, response.arrival, nitzTime, s.nitzTimeReceived⟩
      ({ s with delivered := call :: s.delivered }, 0)

def setNitzTimeReceived (s : NitzState) (timeReceived : Int) : NitzState :=
  { s with nitzTimeReceived := toLong timeReceived }

/-- `RIL_onUnsolicitedResponse` of a NITZ time, up to the unlock. -/
def onNitzTimeReceived (s : NitzState) (a : NitzArrival) : NitzState :=
  let response : NitzTimeData := ⟨a.data, s.arrivals.length⟩
  let s := { s with arrivals := s.arrivals ++ [a] }
  let (s, ret) := (s.setNitzTimeReceived a.elapsedRealtime).nitzTimeReceivedInd response a.behind
  if ret ≠ 0 then { s with uncopied := s.uncopied ++ [response] } else s

/-- The `i`-th of the calls that keep a copy. Two that do it at once are not modelled. -/
def keepCopy (s : NitzState) (i : Nat) : Option NitzState :=
  s.uncopied[i]?.map fun response =>
    { s with uncopied := s.uncopied.eraseIdx i, lastNitzTimeData := some response }

/-- One step under the read lock, which arrivals wait for; a copy that is made meanwhile is in
`uncopied` at its start. -/
def resendLastNITZTimeData (s : NitzState) (behind : Bytes) : NitzState :=
  match s.lastNitzTimeData with
  | none => s
  | some response =>
    let (s, ret) := s.nitzTimeReceivedInd response behind
    if ret = 0 then { s with lastNitzTimeData := none } else s

end NitzState

inductive NitzEvent where
  /-- An arrival, up to the unlock. -/
  | arrive (a : NitzArrival)
  /-- The copy of an arrival that found no client. -/
  | keep (i : Nat)
  /-- `setResponseFunctions` up to `onNewCommandConnect`. -/
  | install (client : Nat)
  /-- `onNewCommandConnect`, with the bytes behind the copy. -/
  | resend (behind : Bytes)
  | die (client : Nat)
  /-- Another call of the client's callbacks fails. -/
  | notice
  deriving DecidableEq, Repr

def NitzState.step (s : NitzState) : NitzEvent → Option NitzState
  | .arrive a => some (s.onNitzTimeReceived a)
  | .keep i => s.keepCopy i
  | .install client =>
    if s.connecting then none
    else some { s with radioIndication := some client, connecting := true }
  | .resend behind =>
    if s.connecting then some { s.resendLastNITZTimeData behind with connecting := false } else none
  | .die client => some { s with dead := client :: s.dead }
  | .notice => if s.CallsDead then some s.resetCallbacks else none

namespace NitzState

/-! ## What is promised -/

/-- The deliveries of each client are in the order of the arrivals, and each has the data and the
time of its own arrival. -/
structure Ordered (s : NitzState) : Prop where
  order : s.delivered.Pairwise fun later earlier =>
    later.client = earlier.client → earlier.arrival ≤ later.arrival
  stamped : ∀ d ∈ s.delivered, ∃ a, s.arrivals[d.arrival]? = some a ∧
    d.nitzTime = a.nitzTime ∧ d.receivedTime = a.elapsedRealtime

/-- A living client whose connection is complete finds the last arrival delivered. -/
structure Timely (s : NitzState) : Prop extends Ordered s where
  caughtUp : ∀ client, s.radioIndication = some client → client ∉ s.dead →
    s.connecting = false → s.arrivals = [] ∨
      ∃ d ∈ s.delivered, d.arrival + 1 = s.arrivals.length

/-- The last arrival that is copied, or yet to be copied. -/
def lastCopy (s : NitzState) : Option NitzTimeData := s.uncopied.getLast?.or s.lastNitzTimeData

/-- The steps that lose, reorder or mis-stamp a NITZ time: an arrival without data or after the
24.8 days that `long` can count, a call to a client that died unnoticed, an arrival that finds a
client before the older copy was resent to it, a copy in place of a later one, and a resend before
all copies are made or of one that is read on behind its bytes. -/
def Disturbs (s : NitzState) : NitzEvent → Prop
  | .arrive a => a.data = [] ∨ ¬ (-2 ^ 31 ≤ a.elapsedRealtime ∧ a.elapsedRealtime < 2 ^ 31) ∨
      s.CallsDead ∨ (s.radioIndication.isSome ∧ s.lastCopy.isSome)
  | .keep i => i ≠ 0
  | .resend _ => (s.CallsDead ∧ s.lastNitzTimeData.isSome) ∨
      (s.radioIndication.isSome ∧ (s.uncopied ≠ [] ∨ ∃ response ∈ s.lastNitzTimeData,
        0 ∉ response.data))
  | _ => False

instance (s : NitzState) : (ev : NitzEvent) → Decidable (s.Disturbs ev)
  | .arrive a => inferInstanceAs (Decidable (a.data = [] ∨
      ¬ (-2 ^ 31 ≤ a.elapsedRealtime ∧ a.elapsedRealtime < 2 ^ 31) ∨ s.CallsDead ∨
      (s.radioIndication.isSome ∧ s.lastCopy.isSome)))
  | .keep i => inferInstanceAs (Decidable (i ≠ 0))
  | .resend _ => inferInstanceAs (Decidable ((s.CallsDead ∧ s.lastNitzTimeData.isSome) ∨
      (s.radioIndication.isSome ∧ (s.uncopied ≠ [] ∨ ∃ response ∈ s.lastNitzTimeData,
        0 ∉ response.data))))
  | .install _ | .die _ | .notice => inferInstanceAs (Decidable False)

/-! ## The invariant -/

/-- A copy of the last arrival, which nobody has yet. -/
structure Undelivered (s : NitzState) (response : NitzTimeData) : Prop where
  data_ne_nil : response.data ≠ []
  last : response.arrival + 1 = s.arrivals.length
  arrival : ∃ behind, s.arrivals[response.arrival]? =
    some ⟨response.data, behind, s.nitzTimeReceived⟩
  later : ∀ d ∈ s.delivered, d.arrival < response.arrival

/-- What is copied last is the last arrival; without a copy, somebody has it. -/
structure Current (s : NitzState) : Prop extends Ordered s where
  copied : ∀ response, s.lastCopy = some response → s.Undelivered response
  passedOn : s.lastCopy = none → s.arrivals = [] ∨
    ∃ d ∈ s.delivered, d.arrival + 1 = s.arrivals.length
  connected : s.radioIndication.isSome → s.connecting = false → s.lastCopy = none

theorem Current.timely {s : NitzState} (hs : s.Current) : s.Timely where
  toOrdered := hs.toOrdered
  caughtUp := by
    intro client hclient _ hconnecting
    exact hs.passedOn (hs.connected (by simp [hclient]) hconnecting)

theorem current_init : init.Current := by
  refine ⟨⟨List.Pairwise.nil, fun d hd => ?_⟩, fun response h => ?_, fun _ => .inl rfl,
    fun h => ?_⟩
  · cases hd
  · cases h
  · cases h

theorem toLong_eq {n : Int} (hle : -2 ^ 31 ≤ n) (hlt : n < 2 ^ 31) : toLong n = n := by
  unfold toLong
  exact Int.bmod_eq_of_le_mul_two (by omega) (by omega)

/-- A string that ends within its bytes is read no further. -/
theorem cStr_append {data : Bytes} (hdata : 0 ∈ data) (behind : Bytes) :
    cStr (data ++ behind) = cStr data := by
  induction data with
  | nil => cases hdata
  | cons b data ih =>
    simp only [cStr, List.cons_append, List.takeWhile_cons] at ih ⊢
    split
    · next hne =>
      have hrest : 0 ∈ data := by simpa [eq_comm, bne_iff_ne.mp hne] using hdata
      rw [ih hrest]
    · rfl

theorem lastCopy_eq_none {s : NitzState} (h : s.lastCopy = none) :
    s.uncopied = [] ∧ s.lastNitzTimeData = none := by
  obtain ⟨hlast, hcopy⟩ := Option.or_eq_none_iff.mp h
  exact ⟨List.getLast?_eq_none_iff.mp hlast, hcopy⟩

theorem lastCopy_of_uncopied {s : NitzState} (h : s.uncopied = []) :
    s.lastCopy = s.lastNitzTimeData := by
  rw [lastCopy, h]
  rfl

/-- The copies are made in the order of the arrivals, so that the last one stays the last. -/
theorem lastCopy_keepCopy {s s' : NitzState} (h : s.keepCopy 0 = some s') :
    s'.lastCopy = s.lastCopy := by
  obtain ⟨response, hresponse, rfl⟩ := Option.map_eq_some_iff.mp h
  obtain ⟨rest, hrest⟩ : ∃ rest, s.uncopied = response :: rest := by
    cases hlist : s.uncopied with
    | nil =>
      rw [hlist] at hresponse
      cases hresponse
    | cons first rest =>
      rw [hlist] at hresponse
      cases hresponse
      exact ⟨rest, rfl⟩
  simp only [lastCopy, hrest, List.eraseIdx_zero, List.tail_cons, List.getLast?_cons]
  cases rest.getLast? <;> rfl

theorem Ordered.arrival_lt {s : NitzState} (hs : s.Ordered) {d : NitzDelivery}
    (hd : d ∈ s.delivered) : d.arrival < s.arrivals.length := by
  obtain ⟨a, ha, _⟩ := hs.stamped d hd
  exact (List.getElem?_eq_some_iff.mp ha).1

/-- A call to a living client delivers. -/
theorem nitzTimeReceivedInd_some {s : NitzState} {client : Nat} {response : NitzTimeData}
    (behind : Bytes) (hclient : s.radioIndication = some client) (halive : client ∉ s.dead)
    (hdata : response.data ≠ []) : s.nitzTimeReceivedInd response behind =
      ({ s with delivered := ⟨client, response.arrival, cStr (response.data ++ behind),
          s.nitzTimeReceived⟩ :: s.delivered }, 0) := by
  have hlen : ¬ response.data.length = 0 := fun h => hdata (List.length_eq_zero_iff.mp h)
  simp only [nitzTimeReceivedInd, hclient, if_neg hlen, if_neg halive]

theorem nitzTimeReceivedInd_none {s : NitzState} {response : NitzTimeData} (behind : Bytes)
    (hclient : s.radioIndication = none) : s.nitzTimeReceivedInd response behind = (s, -1) := by
  simp only [nitzTimeReceivedInd, hclient]

/-- A delivery of the last arrival, later than all deliveries before it. -/
theorem Ordered.deliver {s : NitzState} (hs : s.Ordered) (call : NitzDelivery) {a : NitzArrival}
    (hlater : ∀ d ∈ s.delivered, d.arrival < call.arrival)
    (ha : s.arrivals[call.arrival]? = some a) (hlast : call.arrival + 1 = s.arrivals.length)
    (htime : call.nitzTime = a.nitzTime) (hreceived : call.receivedTime = a.elapsedRealtime)
    (connecting : Bool) :
    Current { s with
      delivered := call :: s.delivered, uncopied := [], lastNitzTimeData := none,
      connecting := connecting } where
  order := List.pairwise_cons.mpr ⟨fun d hd _ => (hlater d hd).le, hs.order⟩
  stamped := by
    intro d hd
    rcases List.mem_cons.mp hd with rfl | hd
    · exact ⟨a, ha, htime, hreceived⟩
    · exact hs.stamped d hd
  copied := fun response h => by cases h
  passedOn := fun _ => .inr ⟨call, List.mem_cons_self, hlast⟩
  connected := fun _ _ => rfl

/-- An arrival keeps what was delivered before it. -/
theorem Ordered.received {s : NitzState} (hs : s.Ordered) (a : NitzArrival) (time : Int) :
    Ordered { s with arrivals := s.arrivals ++ [a], nitzTimeReceived := time } where
  order := hs.order
  stamped := by
    intro d hd
    obtain ⟨b, hb, h⟩ := hs.stamped d hd
    exact ⟨b, (List.getElem?_append_left (hs.arrival_lt hd)).trans hb, h⟩

theorem Current.arrive {s : NitzState} (hs : s.Current) {a : NitzArrival}
    (hgood : ¬ s.Disturbs (.arrive a)) : (s.onNitzTimeReceived a).Current := by
  simp only [Disturbs, not_or, not_not] at hgood
  obtain ⟨hdata, ⟨hle, hlt⟩, hdead, hcopy⟩ := hgood
  have hlong := toLong_eq hle hlt
  have hnew : (s.arrivals ++ [a])[s.arrivals.length]? = some a := List.getElem?_concat_length
  have hreceived := hs.received a (toLong a.elapsedRealtime)
  cases hclient : s.radioIndication with
  | none =>
    -- what is yet to be copied ends with the new arrival
    have hret : (-1 : Int) ≠ 0 := by decide
    simp only [onNitzTimeReceived, setNitzTimeReceived, nitzTimeReceivedInd, hclient, if_pos hret]
    refine ⟨⟨hreceived.order, hreceived.stamped⟩, ?_, fun h => ?_, fun h => ?_⟩
    · intro response hresponse
      simp only [lastCopy, List.getLast?_concat, Option.some_or, Option.some.injEq] at hresponse
      subst hresponse
      refine ⟨hdata, by simp, ⟨a.behind, ?_⟩, fun d hd => hs.arrival_lt hd⟩
      rw [hlong]
      exact hnew
    · simp [lastCopy] at h
    · cases h
  | some client =>
    have halive : client ∉ s.dead := fun h => hdead ⟨client, hclient, h⟩
    have hnone : s.lastCopy = none := by
      cases hlast : s.lastCopy with
      | none => rfl
      | some response => exact absurd ⟨by simp [hclient], by simp [hlast]⟩ hcopy
    obtain ⟨huncopied, hcached⟩ := lastCopy_eq_none hnone
    have hdelivered := hreceived.deliver ⟨client, s.arrivals.length, a.nitzTime,
      toLong a.elapsedRealtime⟩ (fun d hd => hs.arrival_lt hd) hnew (by simp) rfl hlong
      s.connecting
    have hlen : ¬ a.data.length = 0 := fun h => hdata (List.length_eq_zero_iff.mp h)
    simp only [onNitzTimeReceived, setNitzTimeReceived, nitzTimeReceivedInd, hclient, if_neg hlen,
      if_neg halive]
    simpa [NitzArrival.nitzTime, hclient, huncopied, hcached] using hdelivered

/-- The clients come and go without a change of the copies. -/
theorem Current.withClients {s : NitzState} (hs : s.Current) {radioIndication : Option Nat}
    {connecting : Bool} {dead : List Nat}
    (hconnected : radioIndication.isSome → connecting = false → s.lastCopy = none) :
    Current { s with
      radioIndication := radioIndication, connecting := connecting, dead := dead } where
  order := hs.order
  stamped := hs.stamped
  copied := fun response h => { hs.copied response h with }
  passedOn := hs.passedOn
  connected := hconnected

theorem Current.keepCopy {s s' : NitzState} (hs : s.Current) (h : s.keepCopy 0 = some s') :
    s'.Current := by
  have hcopy := lastCopy_keepCopy h
  obtain ⟨response, _, rfl⟩ := Option.map_eq_some_iff.mp h
  exact ⟨⟨hs.order, hs.stamped⟩,
    fun response h => { hs.copied response (hcopy.symm.trans h) with },
    fun h => hs.passedOn (hcopy.symm.trans h),
    fun hclient hconnecting => hcopy.trans (hs.connected hclient hconnecting)⟩

theorem Current.resend {s : NitzState} (hs : s.Current) {behind : Bytes}
    (hgood : ¬ s.Disturbs (.resend behind)) :
    Current { s.resendLastNITZTimeData behind with connecting := false } := by
  simp only [Disturbs, not_or, not_and] at hgood
  obtain ⟨hdead, hready⟩ := hgood
  unfold resendLastNITZTimeData
  cases hclient : s.radioIndication with
  | none =>
    have hret : ¬ (-1 : Int) = 0 := by decide
    have hunchanged : Current { s with connecting := false } :=
      hs.withClients fun h _ => by simp [hclient] at h
    cases hlast : s.lastNitzTimeData with
    | none => simpa only [hlast, hclient] using hunchanged
    | some response =>
      simpa only [nitzTimeReceivedInd_none behind hclient, if_neg hret, hlast, hclient]
        using hunchanged
  | some client =>
    obtain ⟨huncopied, hends⟩ : s.uncopied = [] ∧
        ¬ ∃ response ∈ s.lastNitzTimeData, 0 ∉ response.data := by
      simpa only [not_or, not_not] using hready (by simp [hclient])
    have hcopy := lastCopy_of_uncopied huncopied
    cases hlast : s.lastNitzTimeData with
    | none =>
      have hunchanged : Current { s with connecting := false } :=
        hs.withClients fun _ _ => hcopy.trans hlast
      simpa only [hlast, hclient] using hunchanged
    | some response =>
      obtain ⟨hdata, hlength, ⟨rest, harrival⟩, hlater⟩ := hs.copied response (hcopy.trans hlast)
      have halive : client ∉ s.dead := fun h => hdead ⟨client, hclient, h⟩ (by simp [hlast])
      have hzero : 0 ∈ response.data := by
        by_contra hzero
        exact hends ⟨response, hlast, hzero⟩
      simp only [nitzTimeReceivedInd_some behind hclient halive hdata]
      have htime : cStr (response.data ++ behind) =
          NitzArrival.nitzTime ⟨response.data, rest, s.nitzTimeReceived⟩ := by
        rw [NitzArrival.nitzTime, cStr_append hzero, cStr_append hzero]
      have hdelivered := hs.toOrdered.deliver ⟨client, response.arrival,
        cStr (response.data ++ behind), s.nitzTimeReceived⟩ hlater harrival hlength htime rfl false
      simpa only [huncopied, hclient, if_pos] using hdelivered

theorem Current.step {s s' : NitzState} {ev : NitzEvent} (hs : s.Current)
    (hgood : ¬ s.Disturbs ev) (h : s.step ev = some s') : s'.Current := by
  cases ev with
  | arrive a =>
    cases h
    exact hs.arrive hgood
  | keep i =>
    obtain rfl : i = 0 := not_not.mp hgood
    exact hs.keepCopy h
  | install client =>
    simp only [NitzState.step, Option.ite_none_left_eq_some, Option.some.injEq] at h
    obtain ⟨_, rfl⟩ := h
    exact hs.withClients fun _ h => by cases h
  | resend behind =>
    simp only [NitzState.step, Option.ite_none_right_eq_some, Option.some.injEq] at h
    obtain ⟨_, rfl⟩ := h
    exact hs.resend hgood
  | die client =>
    cases h
    exact hs.withClients hs.connected
  | notice =>
    simp only [NitzState.step, Option.ite_none_right_eq_some, Option.some.injEq] at h
    obtain ⟨_, rfl⟩ := h
    exact hs.withClients fun h => by cases h

/-- NITZ times are delivered in order, with their own times and to the next client, in every run
without a step that disturbs them. -/
theorem timely_of_steps {es : List NitzEvent} {s : NitzState} (h : Steps step init es s)
    (hmeet : AllMeet (fun s ev => ¬ s.Disturbs ev) step init es) : s.Timely := by
  have hs : s.Current := hmeet.invariant (fun _ _ _ hs hgood => hs.step hgood) h current_init
  exact hs.timely

/-- A client dies, and two times that arrive afterwards wait for the next client. -/
def reconnection : List NitzEvent :=
  [.install 0, .resend [], .arrive ⟨[0x31], [0], 1000⟩, .die 0, .notice,
    .arrive ⟨[0x32, 0], [], 2000⟩, .arrive ⟨[0x33, 0], [], 3000⟩, .keep 0, .install 1, .keep 0,
    .resend [0x39]]

theorem timely_reconnection : ∃ s, Steps step init reconnection s ∧ s.Timely := by
  have hsteps := steps_iff_foldlM.mpr (rfl : reconnection.foldlM step init = some _)
  refine ⟨_, hsteps, timely_of_steps hsteps ?_⟩
  exact .cons rfl (by decide) (.cons rfl (by decide) (.cons rfl (by decide) (.cons rfl (by decide)
    (.cons rfl (by decide) (.cons rfl (by decide) (.cons rfl (by decide) (.cons rfl (by decide)
    (.cons rfl (by decide) (.cons rfl (by decide) (.cons rfl (by decide) trivial))))))))))

/-- An arrival that comes after `setResponseFunctions` and before the resend: the older time is
delivered last, and with the time of the newer one. -/
theorem overtaken_copy_misstamped : ¬ ∀ (es : List NitzEvent) (s : NitzState),
    Steps step init es s → s.Timely := by
  intro h
  have hsteps := steps_iff_foldlM.mpr (rfl : [NitzEvent.arrive ⟨[0x31, 0], [], 1000⟩, .keep 0,
    .install 0, .arrive ⟨[0x32, 0], [], 2000⟩, .resend []].foldlM step init = some _)
  have horder := (h _ _ hsteps).order
  revert horder
  decide

end NitzState
end Ril
end Huashan
