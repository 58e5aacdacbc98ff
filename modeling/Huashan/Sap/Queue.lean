import Huashan.Sap.Socket

/-!
# Huashan.Sap.Queue

Completions and the queue of pending requests. The queue is looked through from its front, where
requests are added, for the id and the token of the completed request, not for the request itself.

`removesOwn_iff`: every completion removes its own request, and every queued request keeps its
header, exactly when no request is completed while another one with the same id and token is ahead
of it in the queue.
-/

namespace Huashan
namespace Sap

/-! ## The first element that is looked for -/

section Lists

variable {α : Type*} [DecidableEq α] {p : α → Bool} {l : List α}

theorem eraseP_of_find? {a : α} (h : l.find? p = some a) : l.eraseP p = l.erase a := by
  induction l with
  | nil => cases h
  | cons b l ih =>
    rw [List.find?_cons] at h
    split at h
    · next hb =>
      cases h
      rw [List.eraseP_cons_of_pos hb, List.erase_cons_head]
    · next hb =>
      have hne : b ≠ a := by
        rintro rfl
        cases hb.symm.trans (List.find?_some h)
      rw [List.eraseP_cons_of_neg (by simp [hb]), List.erase_cons_tail (by simpa using hne), ih h]

/-- `t` is found when nothing ahead of it is. -/
theorem find?_eq_some_iff_takeWhile {t : α} (ht : t ∈ l) (hp : p t = true) :
    l.find? p = some t ↔ ∀ r ∈ l.takeWhile (· ≠ t), p r = false := by
  induction l with
  | nil => cases ht
  | cons b l ih =>
    by_cases hb : b = t
    · subst hb
      simp [hp]
    · have htl : t ∈ l := (List.mem_cons.mp ht).resolve_left (Ne.symm hb)
      rw [List.takeWhile_cons_of_pos (by simpa using hb), List.forall_mem_cons, ← ih htl]
      cases hpb : p b with
      | false => simp [hpb]
      | true => simp [hpb, hb]

theorem erase_inj {a b : α} (hl : l.Nodup) (ha : a ∈ l) : l.erase a = l.erase b ↔ a = b := by
  constructor
  · intro h
    by_contra hne
    refine hl.not_mem_erase (a := a) ?_
    rw [h]
    exact (List.mem_erase_of_ne hne).mpr ha
  · rintro rfl
    rfl

end Lists

/-- Freeing an object leaves the null pointer free. -/
theorem update_none_eq_none {α : Type*} {f : Nat → Option α} {a : Nat} (h : f a = none) (b : Nat) :
    Function.update f b none a = none := by
  rw [Function.update_apply]
  split
  · rfl
  · exact h

namespace State

variable {cfg : Config}

/-- What the queue is looked through for. -/
def key (s : State) (r : Nat) : Option (MsgId × Int32) :=
  (s.requests r).bind fun req => (s.headers req.curr).map fun hdr => (hdr.id, req.token)

/-- Each queued request has a header that has not been freed. -/
def Owned (s : State) : Prop :=
  ∀ r ∈ s.pendingResponseQueue, ∃ req hdr, s.requests r = some req ∧ s.headers req.curr = some hdr

/-- A completion removes the request that it completes, and all others keep their headers. -/
def RemovesOwn (s : State) (ev : Event) (s' : State) : Prop :=
  (match ev with
    | .complete call _ _ _ _ _ => call.address ∈ s.pendingResponseQueue ∧
        s'.pendingResponseQueue = s.pendingResponseQueue.erase call.address
    | _ => s.pendingResponseQueue ⊆ s'.pendingResponseQueue) ∧ s'.Owned

/-- No request with the same id and token was dispatched after the completed one and still waits. -/
def Unshadowed (s : State) : Event → Prop
  | .complete call _ _ _ _ _ => ∀ r ∈ s.pendingResponseQueue.takeWhile (· ≠ call.address),
      s.key r ≠ s.key call.address
  | _ => True

/-- What the steps keep up to the first request that is shadowed. -/
structure Wellformed (s : State) : Prop where
  owns : ∀ r ∈ s.pendingResponseQueue, ∃ req hdr, s.requests r = some req ∧
    s.headers req.curr = some hdr ∧ hdr.token = req.token
  owner_inj : ∀ r ∈ s.pendingResponseQueue, ∀ r' ∈ s.pendingResponseQueue, ∀ req req',
    s.requests r = some req → s.requests r' = some req' → req.curr = req'.curr → r = r'
  nodup : s.pendingResponseQueue.Nodup
  null : s.headers 0 = none ∧ s.requests 0 = none
  issued : ∀ call ∈ s.issued, call.address ∈ s.pendingResponseQueue
  issued_nodup : (s.issued.map Issued.address).Nodup

theorem Wellformed.owned {s : State} (hs : s.Wellformed) : s.Owned := by
  intro r hr
  obtain ⟨req, hdr, hreq, hhdr, _⟩ := hs.owns r hr
  exact ⟨req, hdr, hreq, hhdr⟩

theorem wellformed_init (uimFuncs : Bool) (sapImpl : SapImpl) :
    (init uimFuncs sapImpl).Wellformed where
  owns := fun _ h => by cases h
  owner_inj := fun _ h => by cases h
  nodup := List.nodup_nil
  null := ⟨rfl, rfl⟩
  issued := fun _ h => by cases h
  issued_nodup := List.nodup_nil

/-! ## Dispatching -/

/-- A new header, with the memory for it free before, is none of those of the queue. -/
theorem Wellformed.header {s : State} (hs : s.Wellformed) {req : Nat} (hfree : s.IsFree req)
    (hdr : Option MsgHeader) :
    { s with headers := Function.update s.headers req hdr }.Wellformed := by
  refine ⟨fun r hr => ?_, hs.owner_inj, hs.nodup, ⟨?_, hs.null.2⟩, hs.issued, hs.issued_nodup⟩
  · obtain ⟨req', hdr', hreq, hhdr, htoken⟩ := hs.owns r hr
    have hne : req'.curr ≠ req := by
      intro heq
      rw [heq, hfree.2.1] at hhdr
      cases hhdr
    exact ⟨req', hdr', hreq, (Function.update_of_ne hne _ _).trans hhdr, htoken⟩
  · exact (Function.update_of_ne hfree.1.symm _ _).trans hs.null.1

/-- A new request for a header that no queued request has. -/
theorem Wellformed.enqueue {s : State} (hs : s.Wellformed) {request : Nat}
    (hfree : s.IsFree request) {req : SapSocketRequest} {hdr : MsgHeader}
    (hhdr : s.headers req.curr = some hdr) (htoken : hdr.token = req.token)
    (hnew : ∀ r ∈ s.pendingResponseQueue, ∀ req', s.requests r = some req' → req'.curr ≠ req.curr) :
    ({ s with requests := Function.update s.requests request (some req) }.enqueue
      request).Wellformed := by
  have hne : ∀ r ∈ s.pendingResponseQueue, r ≠ request := by
    rintro r hr rfl
    obtain ⟨req', _, hreq, _⟩ := hs.owns r hr
    rw [hfree.2.2] at hreq
    cases hreq
  have hold : ∀ r ∈ s.pendingResponseQueue,
      Function.update s.requests request (some req) r = s.requests r :=
    fun r hr => Function.update_of_ne (hne r hr) _ _
  constructor
  · intro r hr
    obtain rfl | hr := List.mem_cons.mp hr
    · exact ⟨req, hdr, Function.update_self _ _ _, hhdr, htoken⟩
    · obtain ⟨req', hdr', hreq, hhdr', htoken'⟩ := hs.owns r hr
      exact ⟨req', hdr', (hold r hr).trans hreq, hhdr', htoken'⟩
  · intro r hr r' hr' req₁ req₂ h₁ h₂ hcurr
    obtain rfl | hr := List.mem_cons.mp hr
    · obtain rfl | hr' := List.mem_cons.mp hr'
      · rfl
      · cases (Function.update_self _ _ _).symm.trans h₁
        exact absurd hcurr.symm (hnew r' hr' req₂ ((hold r' hr').symm.trans h₂))
    · obtain rfl | hr' := List.mem_cons.mp hr'
      · cases (Function.update_self _ _ _).symm.trans h₂
        exact absurd hcurr (hnew r hr req₁ ((hold r hr).symm.trans h₁))
      · exact hs.owner_inj r hr r' hr' req₁ req₂ ((hold r hr).symm.trans h₁)
          ((hold r' hr').symm.trans h₂) hcurr
  · exact List.nodup_cons.mpr ⟨fun hmem => hne request hmem rfl, hs.nodup⟩
  · exact ⟨hs.null.1, (Function.update_of_ne hfree.1.symm _ _).trans hs.null.2⟩
  · exact fun call hcall => List.mem_cons_of_mem request (hs.issued call hcall)
  · exact hs.issued_nodup

/-- A request that was enqueued is given to the vendor. -/
theorem Wellformed.issue {s : State} (hs : s.Wellformed) {call : Issued}
    (hmem : call.address ∈ s.pendingResponseQueue)
    (hnew : ∀ c ∈ s.issued, c.address ≠ call.address) :
    { s with issued := call :: s.issued }.Wellformed := by
  refine ⟨hs.owns, hs.owner_inj, hs.nodup, hs.null, fun c hc => ?_, ?_⟩
  · obtain rfl | hc := List.mem_cons.mp hc
    · exact hmem
    · exact hs.issued c hc
  · refine List.nodup_cons.mpr ⟨fun h => ?_, hs.issued_nodup⟩
    obtain ⟨c, hc, haddress⟩ := List.mem_map.mp h
    exact hnew c hc haddress

theorem Wellformed.dispatch {s s' : State} (hs : s.Wellformed) {req : Nat} {hdr : MsgHeader}
    {alloc : Option Nat} (h : s.step cfg (.dispatch req hdr alloc) = some s') :
    s'.Wellformed ∧ s.pendingResponseQueue ⊆ s'.pendingResponseQueue := by
  obtain ⟨⟨hreq, halloc⟩, h⟩ := Option.ite_none_right_eq_some.mp h
  cases h
  cases alloc with
  | none =>
    refine ⟨?_, fun r hr => hr⟩
    have hfreed : Function.update (Function.update s.headers req (some hdr)) req none =
        Function.update s.headers req none := Function.update_idem _ _ _
    unfold dispatchRequest setHeader
    simp only [hfreed]
    exact hs.header hreq none
  | some currRequest =>
    obtain ⟨hfree, hne⟩ := halloc currRequest rfl
    have hheader := hs.header hreq (some hdr)
    have hfree' : ({ s with headers := Function.update s.headers req (some hdr) }).IsFree
        currRequest :=
      ⟨hfree.1, (Function.update_of_ne hne _ _).trans hfree.2.1, hfree.2.2⟩
    have hnew : ∀ r ∈ s.pendingResponseQueue, ∀ req', s.requests r = some req' →
        req'.curr ≠ (⟨hdr.token, req⟩ : SapSocketRequest).curr := by
      intro r hr req' hreq' hcurr
      obtain ⟨req₀, hdr₀, hreq₀, hhdr₀, _⟩ := hs.owns r hr
      cases hreq₀.symm.trans hreq'
      rw [hcurr, hreq.2.1] at hhdr₀
      cases hhdr₀
    have hqueued := hheader.enqueue hfree' (Function.update_self _ _ _) rfl hnew
    unfold dispatchRequest
    simp only
    split
    · refine ⟨hqueued.issue List.mem_cons_self fun c hc heq => ?_, List.subset_cons_self _ _⟩
      obtain ⟨req₀, _, hreq₀, _⟩ := hs.owns _ (hs.issued c hc)
      rw [heq, hfree.2.2] at hreq₀
      cases hreq₀
    · exact ⟨hqueued, List.subset_cons_self _ _⟩

/-! ## Completing -/

/-- On the queued requests, `matchesRequest` compares the keys. -/
theorem Wellformed.matchesRequest_iff {s : State} (hs : s.Wellformed) {t : Nat}
    {req : SapSocketRequest} {hdr : MsgHeader} (hreq : s.requests t = some req)
    (hhdr : s.headers req.curr = some hdr) (htoken : hdr.token = req.token) {r : Nat}
    (hr : r ∈ s.pendingResponseQueue) :
    s.matchesRequest cfg hdr.id hdr.token r = true ↔ s.key r = s.key t := by
  obtain ⟨req', hdr', hreq', hhdr', _⟩ := hs.owns r hr
  simp only [matchesRequest, readRequest, readHeader, key, hreq, hhdr, hreq', hhdr', htoken,
    Option.getD_some, Option.bind_some, Option.map_some, Bool.and_eq_true, beq_iff_eq,
    Option.some.injEq, Prod.mk.injEq]
  exact ⟨fun h => ⟨h.2.symm, h.1.symm⟩, fun h => ⟨h.2.symm, h.1.symm⟩⟩

/-- What a completion does: the first request with the key of the completed one is removed and
freed, and the header of the completed one is freed. -/
theorem Wellformed.complete_cases {s s' : State} (hs : s.Wellformed) {call : Issued}
    {e : Ril.RilErrno} {response : Option Ril.Bytes} {calloc malloc isOk : Bool}
    (h : s.step cfg (.complete call e response calloc malloc isOk) = some s') :
    call ∈ s.issued ∧ ∃ req temp, s.requests call.address = some req ∧
      s.pendingResponseQueue.find? (fun r => s.key r = s.key call.address) = some temp ∧
      s'.pendingResponseQueue = s.pendingResponseQueue.erase temp ∧
      s'.requests = Function.update s.requests temp none ∧
      s'.headers = Function.update s.headers req.curr none ∧
      s'.issued = s.issued.erase call := by
  obtain ⟨hcall, h⟩ := Option.ite_none_right_eq_some.mp h
  cases h
  have hmem := hs.issued call hcall
  obtain ⟨req, hdr, hreq, hhdr, htoken⟩ := hs.owns call.address hmem
  have ht : call.address ≠ 0 := by
    intro h0
    rw [h0, hs.null.2] at hreq
    cases hreq
  have hcurr : req.curr ≠ 0 := by
    intro h0
    rw [h0, hs.null.1] at hhdr
    cases hhdr
  obtain ⟨temp, htemp⟩ : ∃ temp, s.pendingResponseQueue.find?
      (fun r => s.key r = s.key call.address) = some temp := by
    refine Option.isSome_iff_exists.mp (List.find?_isSome.mpr ⟨call.address, hmem, ?_⟩)
    exact decide_eq_true rfl
  have hfind :
      s.pendingResponseQueue.find? (s.matchesRequest cfg hdr.id hdr.token) = some temp := by
    rw [← htemp]
    refine List.find?_congr fun r hr => ?_
    rw [Bool.eq_iff_iff, decide_eq_true_iff]
    exact hs.matchesRequest_iff hreq hhdr htoken hr
  refine ⟨hcall, req, temp, hreq, htemp, ?_⟩
  -- what `sap::processResponse` does is not looked at
  have hdequeue : ∀ sapImpl, checkAndDequeue cfg { s with
      issued := s.issued.erase call, sapImpl := sapImpl } hdr.id hdr.token =
      { s with
        issued := s.issued.erase call
        sapImpl := sapImpl
        pendingResponseQueue := s.pendingResponseQueue.erase temp
        requests := Function.update s.requests temp none } := by
    intro sapImpl
    rw [← eraseP_of_find? hfind]
    unfold checkAndDequeue
    have hfind' : s.pendingResponseQueue.find? (matchesRequest cfg { s with
        issued := s.issued.erase call, sapImpl := sapImpl } hdr.id hdr.token) = some temp := hfind
    simp only [hfind']
    rfl
  unfold onRequestComplete
  have hread : readRequest cfg { s with issued := s.issued.erase call } call.address = req := by
    simp [readRequest, hreq]
  have hread' : readHeader cfg { s with issued := s.issued.erase call } req.curr = hdr := by
    simp [readHeader, hhdr]
  simp only [hread, hread', ht, hcurr, or_self, if_false]
  cases calloc with
  | false => exact (hdequeue s.sapImpl) ▸ ⟨rfl, rfl, rfl, rfl⟩
  | true => exact (hdequeue _) ▸ ⟨rfl, rfl, rfl, rfl⟩

/-- The first request with its key is the completed one itself exactly when it is not shadowed. -/
theorem Wellformed.find?_iff {s : State} (hs : s.Wellformed) {call : Issued}
    (hcall : call ∈ s.issued) :
    s.pendingResponseQueue.find? (fun r => s.key r = s.key call.address) = some call.address ↔
      ∀ r ∈ s.pendingResponseQueue.takeWhile (· ≠ call.address), s.key r ≠ s.key call.address := by
  rw [find?_eq_some_iff_takeWhile (hs.issued call hcall) (decide_eq_true rfl)]
  simp only [decide_eq_false_iff_not, ne_eq]

theorem Wellformed.complete {s s' : State} (hs : s.Wellformed) {call : Issued}
    {e : Ril.RilErrno} {response : Option Ril.Bytes} {calloc malloc isOk : Bool}
    (hcond : s.Unshadowed (.complete call e response calloc malloc isOk))
    (h : s.step cfg (.complete call e response calloc malloc isOk) = some s') : s'.Wellformed := by
  obtain ⟨hcall, req, temp, hreq, htemp, hqueue, hrequests, hheaders, hissued⟩ :=
    hs.complete_cases h
  have hmem := hs.issued call hcall
  cases htemp.symm.trans ((hs.find?_iff hcall).mpr hcond)
  have hrest : ∀ r ∈ s'.pendingResponseQueue, r ∈ s.pendingResponseQueue ∧ r ≠ call.address ∧
      s'.requests r = s.requests r := by
    intro r hr
    rw [hqueue, hs.nodup.mem_erase_iff] at hr
    rw [hrequests]
    exact ⟨hr.2, hr.1, Function.update_of_ne hr.1 _ _⟩
  constructor
  · intro r hr
    obtain ⟨hr', hne, hsame⟩ := hrest r hr
    obtain ⟨req', hdr', hreq', hhdr', htoken'⟩ := hs.owns r hr'
    refine ⟨req', hdr', hsame.trans hreq', ?_, htoken'⟩
    rw [hheaders, Function.update_of_ne ?_, hhdr']
    intro hcurr
    exact hne (hs.owner_inj r hr' call.address hmem req' req hreq' hreq hcurr)
  · intro r hr r' hr' req₁ req₂ h₁ h₂ hcurr
    obtain ⟨hmem₁, _, hsame₁⟩ := hrest r hr
    obtain ⟨hmem₂, _, hsame₂⟩ := hrest r' hr'
    exact hs.owner_inj r hmem₁ r' hmem₂ req₁ req₂ (hsame₁.symm.trans h₁) (hsame₂.symm.trans h₂)
      hcurr
  · rw [hqueue]
    exact hs.nodup.erase _
  · rw [hheaders, hrequests]
    exact ⟨update_none_eq_none hs.null.1 _, update_none_eq_none hs.null.2 _⟩
  · intro c hc
    rw [hissued] at hc
    rw [hqueue, hs.nodup.mem_erase_iff]
    refine ⟨fun heq => ?_, hs.issued c (List.mem_of_mem_erase hc)⟩
    -- the vendor has every address once
    have hsame : c = call := List.inj_on_of_nodup_map hs.issued_nodup (List.mem_of_mem_erase hc)
      hcall heq
    rw [hsame] at hc
    exact (List.Nodup.of_map _ hs.issued_nodup).not_mem_erase hc
  · rw [hissued]
    exact hs.issued_nodup.sublist (List.erase_sublist.map _)

/-! ## Whole runs -/

theorem Wellformed.unsolicited {s : State} (hs : s.Wellformed) (cfg : Config) (token : Int32)
    (unsolResponse : MsgId) (data : Option Ril.Bytes) (calloc malloc isOk : Bool) :
    (s.onUnsolicitedResponse cfg token unsolResponse data calloc malloc isOk).Wellformed ∧
      s.pendingResponseQueue ⊆ (s.onUnsolicitedResponse cfg token unsolResponse data calloc malloc
        isOk).pendingResponseQueue := by
  unfold onUnsolicitedResponse
  split
  · exact ⟨hs, List.Subset.refl _⟩
  · split
    · exact ⟨hs, List.Subset.refl _⟩
    · exact ⟨⟨hs.owns, hs.owner_inj, hs.nodup, hs.null, hs.issued, hs.issued_nodup⟩,
        List.Subset.refl _⟩

theorem Wellformed.step {s s' : State} (hs : s.Wellformed) {ev : Event} (hev : s.Unshadowed ev)
    (h : s.step cfg ev = some s') : s'.Wellformed := by
  cases ev with
  | dispatch req hdr alloc => exact (hs.dispatch h).1
  | complete call e response calloc malloc isOk => exact hs.complete hev h
  | unsolicited token unsolResponse data calloc malloc isOk =>
    cases h
    exact (hs.unsolicited cfg token unsolResponse data calloc malloc isOk).1

theorem removesOwn_step_iff {s s' : State} (hs : s.Wellformed) {ev : Event}
    (h : s.step cfg ev = some s') : s.RemovesOwn ev s' ↔ s.Unshadowed ev := by
  cases ev with
  | dispatch req hdr alloc =>
    obtain ⟨hs', hsubset⟩ := hs.dispatch h
    exact iff_of_true ⟨hsubset, hs'.owned⟩ trivial
  | complete call e response calloc malloc isOk =>
    obtain ⟨hcall, _, temp, _, htemp, hqueue, _⟩ := hs.complete_cases h
    have hmem := hs.issued call hcall
    constructor
    · rintro ⟨⟨_, herase⟩, _⟩
      refine (hs.find?_iff hcall).mp ?_
      have hmem' := List.mem_of_find?_eq_some htemp
      rw [htemp, (erase_inj hs.nodup hmem').mp (hqueue.symm.trans herase)]
    · intro hev
      cases htemp.symm.trans ((hs.find?_iff hcall).mpr hev)
      exact ⟨⟨hmem, hqueue⟩, (hs.complete hev h).owned⟩
  | unsolicited token unsolResponse data calloc malloc isOk =>
    cases h
    obtain ⟨hs', hsubset⟩ := hs.unsolicited cfg token unsolResponse data calloc malloc isOk
    exact iff_of_true ⟨hsubset, hs'.owned⟩ trivial

/-- In every run, each completion removes its own request and each queued request keeps its header
exactly when no request is completed that is shadowed. -/
theorem removesOwn_iff (cfg : Config) (uimFuncs : Bool) (sapImpl : SapImpl) (es : List Event) :
    Across RemovesOwn (step cfg) (init uimFuncs sapImpl) es ↔
      AllMeet Unshadowed (step cfg) (init uimFuncs sapImpl) es := by
  refine across_iff_allMeet Wellformed ?_ ?_ (wellformed_init uimFuncs sapImpl)
  · intro s ev s' hs hev h
    exact hs.step hev h
  · intro s ev s' hs h
    exact removesOwn_step_iff hs h

/-- The header of an `APDU` request with the token 7. -/
def apduHeader : MsgHeader := ⟨7, .request, .rilSimSapApdu, 0, []⟩

/-- Two such requests wait, and the vendor completes the first one. -/
theorem removes_other :
    ¬∀ (cfg : Config) (uimFuncs : Bool) (sapImpl : SapImpl) (es : List Event),
      Across RemovesOwn (step cfg) (init uimFuncs sapImpl) es := by
  intro h
  have hrun := h ⟨SapImpl.requiredFields, fun _ => ⟨0, 0⟩, fun _ => apduHeader⟩ true ⟨true, []⟩
    [.dispatch 1 apduHeader (some 2), .dispatch 3 apduHeader (some 4),
      .complete ⟨2, .rilSimSapApdu, []⟩ 0 none true true true]
  obtain ⟨⟨_, hremoved⟩, _⟩ := (((hrun _ rfl).2 _ rfl).2 _ rfl).1
  revert hremoved
  decide

end State
end Sap
end Huashan
