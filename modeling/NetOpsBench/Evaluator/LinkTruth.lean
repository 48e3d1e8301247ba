import NetOpsBench.Evaluator.Localization
import NetOpsBench.Evaluator.PortCredit
import NetOpsBench.Models.Topology

/-!
# The ground truth of link faults

A link that is down is down at both ends. The scorer accepts either end, whichever of them the
episode targets and however the interfaces are spelled.

It accepts more than that. `symmetric_score_iff` says for which answers a link fault is scored as it
should be: those that do not get the credit of an end for a foreign label (`CreditsForeign`). When a
link before that of the fault has an end whose label is mistaken for the target's, the links lead
elsewhere (`LeadsTo`), and then it is other answers (`CreditsElsewhere`). `secondSlot_not_symmetric` is
an answer that names a port of another slot.

What the scorer accepts is `acceptable_buildEpisodeGroundTruth`; `score_eq_one_iff` says when an
answer gets the full score.
-/

namespace NetOpsBench.Scorer
open Models

/-! ## The ground truth of an episode -/

structure EpisodeInfo where
  faultType : Option String
  targetDevice : Option String
  targetInterface : Option String
deriving DecidableEq, Repr

def interfaceSymmetricFaultTypes : List String := ["link_down", "link_flapping"]

/-- A switch interface goes by its SONiC name. -/
def endLocation (manifest : TopologyManifest) (endpoint : LinkEndpoint) : Location :=
  let isSwitch := (manifest.device endpoint.device).any (·.role ≠ .client)
  { device := some endpoint.device
    interface :=
      some (if isSwitch then toSonicInterface endpoint.interface else endpoint.interface) }

/-- The other end of a link that has an end at the interface. -/
def otherEnd (device interface : String) (link : Link) : Option LinkEndpoint :=
  let left := link.endpoints.1
  let right := link.endpoints.2
  if left.device = device ∧ areInterfacesEquivalent left.interface interface then some right
  else if right.device = device ∧ areInterfacesEquivalent right.interface interface then some left
  else none

/-- `_find_link_peer_locations`, without a manifest if there is no topology directory -/
def findLinkPeerLocations (manifest : Option TopologyManifest)
    (targetDevice targetInterface : Option String) : List Location :=
  match manifest, Python.truthy targetDevice, Python.truthy targetInterface with
  | some manifest, some device, some interface =>
    ((manifest.links.findSome? (otherEnd device interface)).map (endLocation manifest)).toList
  | _, _, _ => []

def buildEpisodeGroundTruth (info : EpisodeInfo) (manifest : Option TopologyManifest) :
    GroundTruth where
  faultType := info.faultType
  location := some
    { device := info.targetDevice, interface := Python.truthy info.targetInterface }
  equivalentLocations :=
    if info.faultType.any (· ∈ interfaceSymmetricFaultTypes) then
      findLinkPeerLocations manifest info.targetDevice info.targetInterface
    else []

/-! ## Links between switches -/

def endsOf (link : Link) : List LinkEndpoint := [link.endpoints.1, link.endpoints.2]

def IsSwitch (manifest : TopologyManifest) (name : String) : Prop :=
  ∃ device, manifest.device name = some device ∧ device.role ≠ .client

/-- Two link ends are not at one interface: on one device, neither their labels nor the ports that
these are spellings of are the same. -/
def Apart (left right : LinkEndpoint) : Prop :=
  left.device = right.device → left.interface ≠ right.interface ∧
    ∀ port, 1 ≤ port → IsSpelling port left.interface → ¬ IsSpelling port right.interface

/-- The links use each interface of a switch at most once. -/
def UsedOnce (manifest : TopologyManifest) : Prop :=
  (manifest.links.flatMap endsOf).Pairwise fun left right =>
    IsSwitch manifest left.device → Apart left right

/-- A link between two switches, seen from one of its ends. -/
structure SwitchLink (manifest : TopologyManifest) (near far : LinkEndpoint) (nearPort farPort : ℕ) :
    Prop where
  mem : ∃ link ∈ manifest.links, link.endpoints = (near, far) ∨ link.endpoints = (far, near)
  near_switch : IsSwitch manifest near.device
  far_switch : IsSwitch manifest far.device
  near_pos : 1 ≤ nearPort
  far_pos : 1 ≤ farPort
  near_label : IsSpelling nearPort near.interface
  far_label : IsSpelling farPort far.interface

/-- A link fault whose target is an end of a link, by some label of its interface. -/
structure Targets (info : EpisodeInfo) (near : LinkEndpoint) (nearPort : ℕ) (label : String) :
    Prop where
  symmetric : ∃ faultType ∈ interfaceSymmetricFaultTypes, info.faultType = some faultType
  device : info.targetDevice = some near.device
  named : near.device ≠ ""
  interface : info.targetInterface = some label
  spelling : IsSpelling nearPort label

/-! ## Diagnoses -/

/-- An answer names an end by some label of its interface. -/
def Names (answer : Location) (endpoint : LinkEndpoint) (port : ℕ) : Prop :=
  answer.device = some endpoint.device ∧ ∃ label, answer.interface = some label ∧ IsSpelling port label

/-- An answer stands for an end if the device of the end, and no other of the fabric, goes by the name
in the answer, and the label in the answer is one of the port of the end. -/
structure Denotes (manifest : TopologyManifest) (answer : Location) (endpoint : LinkEndpoint)
    (port : ℕ) : Prop where
  device : ∀ device ∈ manifest.devices,
    normalizeName device.name = normalizeName (answer.device.getD "") ↔
      device.name = endpoint.device
  interface : ∃ label, answer.interface = some label ∧ IsSpelling port label

/-- What gets the full score for a fault of the link names one of its ends, and whatever names one of
its ends gets it. -/
structure ScoredSymmetrically (manifest : TopologyManifest) (near far : LinkEndpoint)
    (nearPort farPort : ℕ) (output : AgentOutput) (score : ℚ) : Prop where
  complete : output.verdict = "fault_detected" →
    Names output.location near nearPort ∨ Names output.location far farPort → score = 1
  sound : score = 1 → output.verdict = "fault_detected" ∧
    (Denotes manifest output.location near nearPort ∨ Denotes manifest output.location far farPort)

/-- An answer goes by the name of the device of an end, and its label is foreign, but has the normal
form of the port of the end. -/
structure ForeignTo (answer : Location) (endpoint : LinkEndpoint) (port : ℕ) : Prop where
  device : normalizeName (answer.device.getD "") = normalizeName endpoint.device
  interface : normalizeInterfaceName (answer.interface.getD "") = ethName port
  foreign : Foreign (answer.interface.getD "")

/-- A fault is detected, and located at an end of the link by a foreign label. -/
def CreditsForeign (near far : LinkEndpoint) (nearPort farPort : ℕ) (output : AgentOutput) : Prop :=
  output.verdict = "fault_detected" ∧
    (ForeignTo output.location near nearPort ∨ ForeignTo output.location far farPort)

/-- The first link with an end at the target's device whose label is taken for the target's leads to
this end. -/
def LeadsTo (manifest : TopologyManifest) (near : LinkEndpoint) (label : String)
    (peer : LinkEndpoint) : Prop :=
  ∃ before link after, manifest.links = before ++ link :: after ∧
    otherEnd near.device label link = some peer ∧
    ∀ other ∈ before, otherEnd near.device label other = none

/-- An answer gets the credit for the location of an end. -/
def Located (manifest : TopologyManifest) (answer : Location) (peer : LinkEndpoint) : Prop :=
  normalizeName (answer.device.getD "") = normalizeName peer.device ∧
    normalizeInterface answer.interface = normalizeInterface (endLocation manifest peer).interface

/-- The scorer does not tell an end of a link from an end of the link of the fault. -/
def StandsFor (manifest : TopologyManifest) (peer endpoint : LinkEndpoint) (port : ℕ) : Prop :=
  normalizeName peer.device = normalizeName endpoint.device ∧
    normalizeInterface (endLocation manifest peer).interface = ethName port

/-- A fault is detected, and located at the far end, at the near end by a foreign label, or at an end
that the links lead to in place of the far end. -/
def CreditsElsewhere (manifest : TopologyManifest) (near far peer : LinkEndpoint)
    (nearPort farPort : ℕ) (output : AgentOutput) : Prop :=
  output.verdict = "fault_detected" ∧
    (Names output.location far farPort ∨ ForeignTo output.location near nearPort ∨
      Located manifest output.location peer ∧ ¬ StandsFor manifest peer near nearPort)

/-! ## The other end -/

section
variable {manifest : TopologyManifest} {near far endpoint peer : LinkEndpoint}
  {nearPort farPort port : ℕ} {label : String} {answer : Location} {info : EpisodeInfo}

/-- An end of the device whose interface the label stands for. -/
def isEndAt (device label : String) (endpoint : LinkEndpoint) : Bool :=
  endpoint.device = device ∧ areInterfacesEquivalent endpoint.interface label

/-- A link leads on from an interface when one of its ends is at it. -/
theorem otherEnd_isSome {device : String} {link : Link} :
    (otherEnd device label link).isSome ↔ ∃ endpoint ∈ endsOf link, isEndAt device label endpoint := by
  simp only [endsOf, List.mem_cons, List.not_mem_nil, or_false, exists_eq_or_imp, exists_eq_left,
    isEndAt, decide_eq_true_eq]
  unfold otherEnd
  dsimp only
  split
  · exact iff_of_true rfl (.inl ‹_›)
  · split
    · exact iff_of_true rfl (.inr ‹_›)
    · exact iff_of_false Bool.false_ne_true (not_or.mpr ⟨‹_›, ‹_›⟩)

/-- An end of the link is at the port that the target is a spelling of. -/
theorem SwitchLink.isEndAt (hlink : SwitchLink manifest near far nearPort farPort)
    (hlabel : IsSpelling nearPort label) : isEndAt near.device label near :=
  decide_eq_true ⟨rfl, (areInterfacesEquivalent_iff hlink.near_pos hlink.near_pos hlink.near_label
    hlabel).mpr rfl⟩

/-- The two ends of a link are not at one interface. -/
theorem UsedOnce.ends (hused : UsedOnce manifest) {link : Link} (hmem : link ∈ manifest.links)
    (hswitch : IsSwitch manifest link.endpoints.1.device) :
    Apart link.endpoints.1 link.endpoints.2 := by
  have hpair := (List.pairwise_flatMap.mp hused).1 link hmem
  rw [endsOf, List.pairwise_cons] at hpair
  exact hpair.1 _ (List.mem_singleton_self _) hswitch

theorem Apart.symm {left right : LinkEndpoint} (h : Apart left right) : Apart right left :=
  fun hdevice =>
    ⟨(h hdevice.symm).1.symm, fun port hpos hright hleft => (h hdevice.symm).2 port hpos hleft hright⟩

theorem SwitchLink.apart (hlink : SwitchLink manifest near far nearPort farPort)
    (hused : UsedOnce manifest) : Apart near far := by
  obtain ⟨link, hmem, hends⟩ := hlink.mem
  rcases hends with hends | hends
  · have happart := hused.ends hmem (by rw [hends]; exact hlink.near_switch)
    rwa [hends] at happart
  · have happart := hused.ends hmem (by rw [hends]; exact hlink.far_switch)
    rw [hends] at happart
    exact happart.symm

/-- The link itself leads to the far end, whatever way round it is stored. -/
theorem SwitchLink.otherEnd (hlink : SwitchLink manifest near far nearPort farPort)
    (hused : UsedOnce manifest) (hlabel : IsSpelling nearPort label) {link : Link}
    (hends : link.endpoints = (near, far) ∨ link.endpoints = (far, near)) :
    otherEnd near.device label link = some far := by
  have hnear := of_decide_eq_true (hlink.isEndAt hlabel)
  unfold Scorer.otherEnd
  dsimp only
  rcases hends with hends | hends
  · rw [hends]
    exact if_pos hnear
  · rw [hends]
    refine (if_neg fun hfar => ?_).trans (if_pos hnear)
    -- both ends of the link would be at the interface of the label
    have hport : farPort = nearPort := (areInterfacesEquivalent_iff hlink.far_pos hlink.near_pos
      hlink.far_label hlabel).mp hfar.2
    exact (hlink.apart hused hfar.1.symm).2 nearPort hlink.near_pos hlink.near_label
      (hport ▸ hlink.far_label)

/-- The scan of the links ends at some link. -/
theorem SwitchLink.scan (hlink : SwitchLink manifest near far nearPort farPort)
    (hlabel : IsSpelling nearPort label) :
    ∃ peer, manifest.links.findSome? (Scorer.otherEnd near.device label) = some peer := by
  obtain ⟨link, hmem, hends⟩ := hlink.mem
  have hnear : near ∈ endsOf link := by rcases hends with hends | hends <;> simp [endsOf, hends]
  rw [← Option.isSome_iff_exists, List.findSome?_isSome_iff]
  exact ⟨link, hmem, otherEnd_isSome.mpr ⟨near, hnear, hlink.isEndAt hlabel⟩⟩

/-- The scan of the links ends at the first link that leads on from the target. -/
theorem leadsTo_iff : LeadsTo manifest near label peer ↔
    manifest.links.findSome? (Scorer.otherEnd near.device label) = some peer :=
  List.findSome?_eq_some_iff.symm

/-- The location of an end has the normal form of its port. -/
theorem normalizeInterface_endLocation (hswitch : IsSwitch manifest endpoint.device)
    (hport : 1 ≤ port) (h : IsSpelling port endpoint.interface) :
    normalizeInterface (endLocation manifest endpoint).interface = ethName port := by
  obtain ⟨device, hdevice, hrole⟩ := hswitch
  have hlocation : (endLocation manifest endpoint).interface =
      some (ethernetName ((port - 1) * 4)) := by
    simp only [endLocation, hdevice, Option.any_some, decide_eq_true hrole, if_true, h.toSonic hport]
  rw [hlocation]
  exact (isSpelling_ethernetName port).normalize hport

/-- Only a label that is no spelling of the target's port leads the scan elsewhere. -/
theorem LeadsTo.standsFor (h : LeadsTo manifest near label peer)
    (hlink : SwitchLink manifest near far nearPort farPort) (hused : UsedOnce manifest)
    (hlabel : IsSpelling nearPort label)
    (hends : ∀ endpoint ∈ manifest.links.flatMap endsOf, isEndAt near.device label endpoint →
      IsSpelling nearPort endpoint.interface) : StandsFor manifest peer far farPort := by
  obtain ⟨before, link, after, hlinks, hpeer, hbefore⟩ := h
  obtain ⟨own, hown, hownEnds⟩ := hlink.mem
  have hnear : near ∈ endsOf own := by rcases hownEnds with h | h <;> simp [endsOf, h]
  have hscanned := otherEnd_isSome.mpr ⟨near, hnear, hlink.isEndAt hlabel⟩
  rw [hlinks] at hown
  rcases List.mem_append.mp hown with hown | hown
  · rw [hbefore own hown] at hscanned
    cases hscanned
  · rcases List.mem_cons.mp hown with rfl | hown
    · rw [hlink.otherEnd hused hlabel hownEnds, Option.some.injEq] at hpeer
      subst hpeer
      exact ⟨rfl, normalizeInterface_endLocation hlink.far_switch hlink.far_pos hlink.far_label⟩
    · -- an end of an earlier link would be at the interface of the near end
      obtain ⟨endpoint, hendpoint, hat⟩ := otherEnd_isSome.mp (Option.isSome_of_mem hpeer)
      have hspelling := hends endpoint (List.mem_flatMap.mpr
        ⟨link, by rw [hlinks]; exact List.mem_append_right _ List.mem_cons_self, hendpoint⟩) hat
      have hdevice : endpoint.device = near.device := (of_decide_eq_true hat).1
      have hpairs := (List.pairwise_flatMap.mp hused).2
      rw [hlinks, List.pairwise_append, List.pairwise_cons] at hpairs
      have happart := hpairs.2.1.1 own hown endpoint hendpoint near hnear
        (hdevice ▸ hlink.near_switch) hdevice
      exact absurd hlink.near_label (happart.2 nearPort hlink.near_pos hspelling)

/-! ## Answers -/

/-- The full credit is for the device and the interface. -/
theorem creditFor_eq_one_iff {location : Location} :
    creditFor answer true location = 1 ↔
      normalizeName (answer.device.getD "") = normalizeName (location.device.getD "") ∧
        normalizeInterface answer.interface = normalizeInterface location.interface := by
  unfold creditFor
  rw [if_pos rfl]
  split <;> split <;> rename_i hdevice hinterface <;> norm_num [hdevice, hinterface]

theorem creditFor_le_one {location : Location} : creditFor answer true location ≤ 1 := by
  unfold creditFor
  rw [if_pos rfl]
  split <;> split <;> norm_num

/-! ## The score -/

/-- The full score is for a detected fault with the full credit of an acceptable location. -/
theorem score_eq_one_iff {evaluator : Evaluator} {output : AgentOutput} {truth : GroundTruth}
    (hfault : truth ≠ {}) (happlicable : truth.interfaceApplicable = true) (testcaseId : String) :
    (evaluator.evaluate output truth testcaseId).score = 1 ↔ output.verdict = "fault_detected" ∧
      ∃ location ∈ truth.acceptable, creditFor output.location true location = 1 := by
  rw [Evaluator.evaluate_score hfault, happlicable]
  split
  · rename_i hverdict
    have hbest : IsGreatest (creditFor output.location true ''
        {location | location ∈ truth.acceptable}) _ :=
      isGreatest_matchLocation output.location (truth.location.getD {}) truth.equivalentLocations true
    constructor
    · intro hscore
      obtain ⟨location, hlocation, hcredit⟩ := hbest.1
      exact ⟨hverdict, location, hlocation, hcredit.trans hscore⟩
    · rintro ⟨-, location, hlocation, hcredit⟩
      obtain ⟨best, -, hscore⟩ := hbest.1
      refine le_antisymm ?_ (hcredit ▸ hbest.2 ⟨location, hlocation, rfl⟩)
      rw [GroundTruth.acceptable, ← hscore]
      exact creditFor_le_one
  · rename_i hverdict
    exact iff_of_false zero_ne_one fun h => hverdict h.1

/-- What the scorer accepts for a link fault: the target, and the end that the scan leads to. -/
theorem acceptable_buildEpisodeGroundTruth (htarget : Targets info near nearPort label)
    (hscan : manifest.links.findSome? (Scorer.otherEnd near.device label) = some peer) :
    (buildEpisodeGroundTruth info (some manifest)).interfaceApplicable = true ∧
      (buildEpisodeGroundTruth info (some manifest)).acceptable =
        [{ device := some near.device, interface := some label }, endLocation manifest peer] := by
  obtain ⟨faultType, hsymmetric, hfault⟩ := htarget.symmetric
  have htruthy : Python.truthy info.targetInterface = some label := by
    rw [htarget.interface, Python.truthy_some htarget.spelling.ne_empty]
  have hpeer : (buildEpisodeGroundTruth info (some manifest)).equivalentLocations =
      [endLocation manifest peer] := by
    unfold buildEpisodeGroundTruth findLinkPeerLocations
    rw [hfault, Option.any_some, if_pos (decide_eq_true hsymmetric), htruthy, htarget.device,
      Python.truthy_some htarget.named]
    dsimp only
    rw [hscan]
    rfl
  have hlocation : (buildEpisodeGroundTruth info (some manifest)).location.getD {} =
      { device := some near.device, interface := some label } := by
    simp only [buildEpisodeGroundTruth, Option.getD_some, htarget.device, htruthy]
  refine ⟨?_, ?_⟩
  · rw [GroundTruth.interfaceApplicable, hlocation, Python.truthy_some htarget.spelling.ne_empty]
    rfl
  · rw [GroundTruth.acceptable, hpeer, hlocation]

/-- An answer has the device and the port of an end, as the scorer compares them. -/
def Credited (answer : Location) (endpoint : LinkEndpoint) (port : ℕ) : Prop :=
  normalizeName (answer.device.getD "") = normalizeName endpoint.device ∧
    normalizeInterface answer.interface = ethName port

/-- An answer that names an end gets its credit. -/
theorem Names.credited (hport : 1 ≤ port) (h : Names answer endpoint port) :
    Credited answer endpoint port := by
  obtain ⟨hdevice, label, hinterface, hlabel⟩ := h
  rw [Credited, hdevice, hinterface]
  exact ⟨rfl, hlabel.normalize hport⟩

/-- An answer that is credited with the end of a switch denotes it, unless its label is foreign. -/
theorem Credited.denotes (hnames : (manifest.devices.map fun device =>
      normalizeName device.name).Nodup)
    (hswitch : IsSwitch manifest endpoint.device) (hport : 1 ≤ port)
    (h : Credited answer endpoint port) (hforeign : ¬ ForeignTo answer endpoint port) :
    Denotes manifest answer endpoint port := by
  obtain ⟨hdevice, hinterface⟩ := h
  refine ⟨fun device hmem => ?_, ?_⟩
  · obtain ⟨own, hown, -⟩ := hswitch
    have hfound : manifest.devices.find? (·.name = endpoint.device) = some own := hown
    have hname : own.name = endpoint.device := of_decide_eq_true
      (@List.find?_some _ (fun device : Device => decide (device.name = endpoint.device)) _ _ hfound)
    rw [hdevice]
    constructor
    · intro hsame
      rw [← hname] at hsame
      exact (List.inj_on_of_nodup_map hnames hmem (List.mem_of_find?_eq_some hfound) hsame) ▸ hname
    · exact fun h => h ▸ rfl
  · have hspelling := (isSpelling_iff_not_foreign hport hinterface).mpr
      fun hlabel => hforeign ⟨hdevice, hinterface, hlabel⟩
    cases hanswer : answer.interface with
    | none =>
      rw [hanswer, Option.getD_none] at hspelling
      exact absurd rfl hspelling.ne_empty
    | some label =>
      rw [hanswer, Option.getD_some] at hspelling
      exact ⟨label, rfl, hspelling⟩

/-- An answer with a foreign label denotes no end. -/
theorem ForeignTo.not_denotes {other : LinkEndpoint} {otherPort : ℕ} (hport : 1 ≤ port)
    (hother : 1 ≤ otherPort) (h : ForeignTo answer endpoint port) :
    ¬ Denotes manifest answer other otherPort := by
  rintro ⟨-, label, hinterface, hlabel⟩
  have hnormal := h.interface
  have hforeign := h.foreign
  rw [hinterface, Option.getD_some] at hnormal hforeign
  have hsame : otherPort = port := ethName_inj ((hlabel.normalize hother).symm.trans hnormal)
  exact (isSpelling_iff_not_foreign hport hnormal).mp (hsame ▸ hlabel) hforeign

/-- Two switches with one name, as the scorer compares names, are one. -/
theorem device_eq (hnames : (manifest.devices.map fun device => normalizeName device.name).Nodup)
    (hnear : IsSwitch manifest near.device) (hfar : IsSwitch manifest far.device)
    (h : normalizeName near.device = normalizeName far.device) : near.device = far.device := by
  have hfind {name : String} (hswitch : IsSwitch manifest name) :
      ∃ device ∈ manifest.devices, device.name = name := by
    obtain ⟨device, hdevice, -⟩ := hswitch
    have hfound : manifest.devices.find? (·.name = name) = some device := hdevice
    exact ⟨device, List.mem_of_find?_eq_some hfound, of_decide_eq_true
      (@List.find?_some _ (fun device : Device => decide (device.name = name)) _ _ hfound)⟩
  obtain ⟨left, hleft, hleftName⟩ := hfind hnear
  obtain ⟨right, hright, hrightName⟩ := hfind hfar
  rw [← hleftName, ← hrightName] at h ⊢
  exact congrArg _ (List.inj_on_of_nodup_map hnames hleft hright h)

/-- An answer that denotes the end of a switch gets its credit. -/
theorem Denotes.credited (hswitch : IsSwitch manifest endpoint.device) (hport : 1 ≤ port)
    (h : Denotes manifest answer endpoint port) : Credited answer endpoint port := by
  obtain ⟨own, hown, -⟩ := hswitch
  have hfound : manifest.devices.find? (·.name = endpoint.device) = some own := hown
  have hname : own.name = endpoint.device := of_decide_eq_true
    (@List.find?_some _ (fun device : Device => decide (device.name = endpoint.device)) _ _ hfound)
  have hdevice := (h.device own (List.mem_of_find?_eq_some hfound)).mpr hname
  obtain ⟨label, hinterface, hlabel⟩ := h.interface
  rw [Credited, ← hdevice, hname, hinterface]
  exact ⟨rfl, hlabel.normalize hport⟩

/-- An answer at the location of an end is credited with the ends that this stands for, and no
others. -/
theorem Located.credited_iff (h : Located manifest answer peer) :
    Credited answer endpoint port ↔ StandsFor manifest peer endpoint port := by
  unfold Credited StandsFor
  rw [h.1, h.2]

/-- An answer that is credited with the two ends of a link would be at both of them. -/
theorem SwitchLink.not_credited_both (hlink : SwitchLink manifest near far nearPort farPort)
    (hnames : (manifest.devices.map fun device => normalizeName device.name).Nodup)
    (hused : UsedOnce manifest) (hnear : Credited answer near nearPort) :
    ¬ Credited answer far farPort := by
  intro hfar
  have hsame := device_eq hnames hlink.near_switch hlink.far_switch (hnear.1.symm.trans hfar.1)
  have hport : nearPort = farPort := ethName_inj (hnear.2.symm.trans hfar.2)
  exact (hlink.apart hused hsame).2 nearPort hlink.near_pos hlink.near_label
    (hport ▸ hlink.far_label)

/-- The full score goes to the answers that are credited with the target, or with the end that the
links lead to. -/
theorem score_eq_one_iff_credited (evaluator : Evaluator) (output : AgentOutput) (testcaseId : String)
    (hport : 1 ≤ nearPort) (htarget : Targets info near nearPort label)
    (hleads : LeadsTo manifest near label peer) :
    (evaluator.evaluate output (buildEpisodeGroundTruth info (some manifest)) testcaseId).score = 1 ↔
      output.verdict = "fault_detected" ∧
        (Credited output.location near nearPort ∨ Located manifest output.location peer) := by
  obtain ⟨happlicable, hacceptable⟩ :=
    acceptable_buildEpisodeGroundTruth htarget (leadsTo_iff.mp hleads)
  have hfault : buildEpisodeGroundTruth info (some manifest) ≠ {} := by
    intro hempty
    rw [hempty] at happlicable
    cases happlicable
  have hnear : normalizeInterface (some label) = ethName nearPort := htarget.spelling.normalize hport
  rw [score_eq_one_iff hfault happlicable, hacceptable]
  simp only [List.mem_cons, List.not_mem_nil, or_false, exists_eq_or_imp, exists_eq_left,
    creditFor_eq_one_iff, hnear, Option.getD_some]
  rfl

/-- Where the links lead to the far end, only a foreign label misplaces the score. -/
theorem scoredSymmetrically_iff_of_standsFor {output : AgentOutput} {score : ℚ}
    (hnames : (manifest.devices.map fun device => normalizeName device.name).Nodup)
    (hlink : SwitchLink manifest near far nearPort farPort)
    (hstands : StandsFor manifest peer far farPort)
    (hscore : score = 1 ↔ output.verdict = "fault_detected" ∧
      (Credited output.location near nearPort ∨ Located manifest output.location peer)) :
    ScoredSymmetrically manifest near far nearPort farPort output score ↔
      ¬ CreditsForeign near far nearPort farPort output := by
  have hfar : Located manifest output.location peer ↔ Credited output.location far farPort := by
    unfold Located Credited
    rw [hstands.1, hstands.2]
  rw [hfar] at hscore
  constructor
  · rintro hscored ⟨hverdict, hforeign⟩
    have hone := hscore.mpr ⟨hverdict, hforeign.imp (fun h => ⟨h.device, h.interface⟩)
      fun h => ⟨h.device, h.interface⟩⟩
    rcases hforeign with hforeign | hforeign
    · exact (hscored.sound hone).2.elim (hforeign.not_denotes hlink.near_pos hlink.near_pos)
        (hforeign.not_denotes hlink.near_pos hlink.far_pos)
    · exact (hscored.sound hone).2.elim (hforeign.not_denotes hlink.far_pos hlink.near_pos)
        (hforeign.not_denotes hlink.far_pos hlink.far_pos)
  · intro hforeign
    refine ⟨fun hverdict hanswer => hscore.mpr ⟨hverdict, ?_⟩, fun hone => ?_⟩
    · exact hanswer.imp (Names.credited hlink.near_pos) (Names.credited hlink.far_pos)
    · obtain ⟨hverdict, hcredited⟩ := hscore.mp hone
      refine ⟨hverdict, ?_⟩
      rcases hcredited with hcredited | hcredited
      · exact .inl (hcredited.denotes hnames hlink.near_switch hlink.near_pos
          fun h => hforeign ⟨hverdict, .inl h⟩)
      · exact .inr (hcredited.denotes hnames hlink.far_switch hlink.far_pos
          fun h => hforeign ⟨hverdict, .inr h⟩)

/-- Where the links lead elsewhere, the far end has lost its score to the end that they lead to. -/
theorem scoredSymmetrically_iff_of_not_standsFor {output : AgentOutput} {score : ℚ}
    (hnames : (manifest.devices.map fun device => normalizeName device.name).Nodup)
    (hused : UsedOnce manifest) (hlink : SwitchLink manifest near far nearPort farPort)
    (hstands : ¬ StandsFor manifest peer far farPort)
    (hscore : score = 1 ↔ output.verdict = "fault_detected" ∧
      (Credited output.location near nearPort ∨ Located manifest output.location peer)) :
    ScoredSymmetrically manifest near far nearPort farPort output score ↔
      ¬ CreditsElsewhere manifest near far peer nearPort farPort output := by
  constructor
  · rintro hscored ⟨hverdict, hanswer | hforeign | ⟨hlocated, hother⟩⟩
    · have hfar := hanswer.credited hlink.far_pos
      obtain ⟨-, hcredited⟩ := hscore.mp (hscored.complete hverdict (.inr hanswer))
      rcases hcredited with hnear | hlocated
      · exact hlink.not_credited_both hnames hused hnear hfar
      · exact hstands (hlocated.credited_iff.mp hfar)
    · have hone := hscore.mpr ⟨hverdict, .inl ⟨hforeign.device, hforeign.interface⟩⟩
      exact (hscored.sound hone).2.elim (hforeign.not_denotes hlink.near_pos hlink.near_pos)
        (hforeign.not_denotes hlink.near_pos hlink.far_pos)
    · rcases (hscored.sound (hscore.mpr ⟨hverdict, .inr hlocated⟩)).2 with hdenotes | hdenotes
      · exact hother (hlocated.credited_iff.mp (hdenotes.credited hlink.near_switch hlink.near_pos))
      · exact hstands (hlocated.credited_iff.mp (hdenotes.credited hlink.far_switch hlink.far_pos))
  · intro helsewhere
    refine ⟨fun hverdict hanswer => hscore.mpr ⟨hverdict, .inl ?_⟩, fun hone => ?_⟩
    · rcases hanswer with hanswer | hanswer
      · exact hanswer.credited hlink.near_pos
      · exact absurd ⟨hverdict, .inl hanswer⟩ helsewhere
    · obtain ⟨hverdict, hcredited⟩ := hscore.mp hone
      have hnear : Credited output.location near nearPort := by
        rcases hcredited with hnear | hlocated
        · exact hnear
        · refine hlocated.credited_iff.mpr (not_not.mp fun hother => ?_)
          exact helsewhere ⟨hverdict, .inr (.inr ⟨hlocated, hother⟩)⟩
      exact ⟨hverdict, .inl (hnear.denotes hnames hlink.near_switch hlink.near_pos
        fun h => helsewhere ⟨hverdict, .inr (.inl h)⟩)⟩

/-- The links lead from the target of a link fault to some end. Where this stands for the far end, the
fault is scored the same from both ends exactly for the answers that get no credit for a foreign label.
Where it does not, this is so exactly for the answers that neither name the far end nor get the credit
of another. Only the label of a link end that is taken for the target's, and is none of its port, leads
elsewhere. -/
theorem symmetric_score_iff (evaluator : Evaluator) (output : AgentOutput) (testcaseId : String)
    (hnames : (manifest.devices.map fun device => normalizeName device.name).Nodup)
    (hused : UsedOnce manifest) (hlink : SwitchLink manifest near far nearPort farPort)
    (htarget : Targets info near nearPort label) :
    ∃ peer, LeadsTo manifest near label peer ∧
      (StandsFor manifest peer far farPort →
        (ScoredSymmetrically manifest near far nearPort farPort output (evaluator.evaluate output
            (buildEpisodeGroundTruth info (some manifest)) testcaseId).score ↔
          ¬ CreditsForeign near far nearPort farPort output)) ∧
      (¬ StandsFor manifest peer far farPort →
        (ScoredSymmetrically manifest near far nearPort farPort output (evaluator.evaluate output
            (buildEpisodeGroundTruth info (some manifest)) testcaseId).score ↔
          ¬ CreditsElsewhere manifest near far peer nearPort farPort output)) ∧
      ((∀ endpoint ∈ manifest.links.flatMap endsOf, isEndAt near.device label endpoint →
          IsSpelling nearPort endpoint.interface) →
        StandsFor manifest peer far farPort) := by
  obtain ⟨peer, hscan⟩ := hlink.scan htarget.spelling
  have hleads := leadsTo_iff.mpr hscan
  have hscore := score_eq_one_iff_credited evaluator output testcaseId hlink.near_pos htarget hleads
  exact ⟨peer, hleads,
    fun hstands => scoredSymmetrically_iff_of_standsFor hnames hlink hstands hscore,
    fun hstands => scoredSymmetrically_iff_of_not_standsFor hnames hused hlink hstands hscore,
    hleads.standsFor hlink hused htarget.spelling⟩

end

/-! ## A link -/

def uplink : LinkEndpoint × LinkEndpoint := (⟨"spine1", "eth3"⟩, ⟨"leaf1", "Ethernet0"⟩)

def oneLink : TopologyManifest where
  topologyId := "two-switches"
  name := "two-switches"
  scale := "xs"
  facts := { totalClients := 0 }
  devices := [{ name := "leaf1", role := .leaf }, { name := "spine1", role := .spine }]
  links := [{ kind := "fabric", endpoints := uplink }]

theorem usedOnce_oneLink : UsedOnce oneLink := by
  have hends : oneLink.links.flatMap endsOf = [⟨"spine1", "eth3"⟩, ⟨"leaf1", "Ethernet0"⟩] := rfl
  rw [UsedOnce, hends, List.pairwise_pair]
  exact fun _ hdevice => absurd hdevice (by decide)

theorem switchLink_oneLink : SwitchLink oneLink uplink.2 uplink.1 1 3 where
  mem := ⟨_, List.mem_singleton_self _, .inr rfl⟩
  near_switch := ⟨_, rfl, by decide⟩
  far_switch := ⟨_, rfl, by decide⟩
  near_pos := by decide
  far_pos := by decide
  near_label := isSpelling_ethernetName 1
  far_label := isSpelling_ethName 3

/-- The link is down, and the leaf is the target. -/
def leafDown : EpisodeInfo := ⟨some "link_down", some "leaf1", some (ethernetName 0)⟩

theorem targets_leafDown : Targets leafDown uplink.2 1 (ethernetName 0) where
  symmetric := ⟨"link_down", by decide, rfl⟩
  device := rfl
  named := by decide
  interface := rfl
  spelling := isSpelling_ethernetName 1

theorem oneLink_spellings : ∀ endpoint ∈ oneLink.links.flatMap endsOf,
    isEndAt uplink.2.device (ethernetName 0) endpoint → IsSpelling 1 endpoint.interface := by
  intro endpoint hendpoint hat
  have hends : oneLink.links.flatMap endsOf = [⟨"spine1", "eth3"⟩, ⟨"leaf1", "Ethernet0"⟩] := rfl
  rw [hends] at hendpoint
  rcases List.mem_pair.mp hendpoint with rfl | rfl
  · exact absurd (of_decide_eq_true hat).1 (by decide)
  · exact isSpelling_ethernetName 1

/-- The answer names the end of the link at the spine. -/
theorem oneLink_symmetric : ScoredSymmetrically oneLink uplink.2 uplink.1 1 3
    { verdict := "fault_detected", location := ⟨some "spine1", some "e1-3"⟩ }
    (Evaluator.evaluate { judge := fun _ _ _ _ => false }
      { verdict := "fault_detected", location := ⟨some "spine1", some "e1-3"⟩ }
      (buildEpisodeGroundTruth leafDown (some oneLink)) "episode").score := by
  obtain ⟨peer, -, hiff, -, hstands⟩ := symmetric_score_iff { judge := fun _ _ _ _ => false }
    { verdict := "fault_detected", location := ⟨some "spine1", some "e1-3"⟩ } "episode"
    (by decide +kernel) usedOnce_oneLink switchLink_oneLink targets_leafDown
  refine (hiff (hstands oneLink_spellings)).mpr ?_
  have hspelling : IsSpelling 3 "e1-3" := isSpelling_eStyle 3
  rintro ⟨-, hforeign | hforeign⟩
  · exact absurd hforeign.device (by decide +kernel)
  · exact (isSpelling_iff_not_foreign (by decide) hforeign.interface).mp hspelling hforeign.foreign

/-- The answer names the port of another slot of the leaf, and gets the score of the port of the
link. -/
theorem secondSlot_not_symmetric :
    (oneLink.devices.map fun device => normalizeName device.name).Nodup ∧ UsedOnce oneLink ∧
      SwitchLink oneLink uplink.2 uplink.1 1 3 ∧ Targets leafDown uplink.2 1 (ethernetName 0) ∧
      ¬ ScoredSymmetrically oneLink uplink.2 uplink.1 1 3
        { verdict := "fault_detected", location := ⟨some "leaf1", some "e2-1"⟩ }
        (Evaluator.evaluate { judge := fun _ _ _ _ => false }
          { verdict := "fault_detected", location := ⟨some "leaf1", some "e2-1"⟩ }
          (buildEpisodeGroundTruth leafDown (some oneLink)) "episode").score := by
  refine ⟨by decide +kernel, usedOnce_oneLink, switchLink_oneLink, targets_leafDown,
    fun hscored => ?_⟩
  have hscore : (Evaluator.evaluate { judge := fun _ _ _ _ => false }
      { verdict := "fault_detected", location := ⟨some "leaf1", some "e2-1"⟩ }
      (buildEpisodeGroundTruth leafDown (some oneLink)) "episode").score = 1 := by decide +kernel
  have hforeign : ForeignTo ⟨some "leaf1", some "e2-1"⟩ uplink.2 1 :=
    ⟨rfl, by decide +kernel, foreign_secondSlot⟩
  rcases (hscored.sound hscore).2 with hdenotes | hdenotes
  · exact hforeign.not_denotes (by decide) (by decide) hdenotes
  · exact hforeign.not_denotes (by decide) (by decide) hdenotes

end NetOpsBench.Scorer
