/-
`validate-network-policies.js`, on the documents of a manifest as they are parsed.

A document adds to the errors, and to the policies that the last checks go through.  What
throws in a check ends the script, which then exits with 1 as it does with errors.

Three gaps are left.  A document that gives no namespace passes; `ingress` counts as a rule
even when it is an empty list; and the labels that are looked for are those that some policy
selects, not those that are documented.
-/
import XStreamRoll.Yaml
import Mathlib.Data.List.Nodup

namespace XStreamRoll
namespace Scripts
namespace NetworkPolicies

def expectedNamespace : String := "xstreamroll"

def expectedApiVersion : String := "networking.k8s.io/v1"

def knownAppLabels : List String := ["api", "app", "processing", "postgres", "redis", "jaeger"]

structure Policy where
  name : String
  spec : Yaml
  policyTypes : Yaml

/-! ## One document -/

section

variable (js : Yaml.Conversions)

def loc (i : Nat) : String := "#" ++ toString (i + 1)

def kindErrors (loc : String) (doc : Yaml) : Option (List String) :=
  (js.text ((doc.get "kind").or (.string "<missing>"))).map fun kind =>
    [loc ++ ": expected kind=NetworkPolicy, got kind=" ++ kind ++
      " — non-NetworkPolicy docs in this file are not allowed"]

def apiVersionErrors (loc : String) (doc : Yaml) : Option (List String) :=
  if (doc.get "apiVersion").is expectedApiVersion then some []
  else
    (js.text ((doc.get "apiVersion").or (.string "<missing>"))).map fun apiVersion =>
      [loc ++ ": expected apiVersion=" ++ expectedApiVersion ++ ", got apiVersion=" ++ apiVersion]

/-- `doc?.metadata?.name`, if it is a string with something in it. -/
def nameOf (doc : Yaml) : Option String :=
  match (doc.get "metadata").get "name" with
  | .string name => if name = "" then none else some name
  | _ => none

def nameErrors (name : String) (seenNames : List String) : List String :=
  if name ∈ seenNames then [name ++ ": duplicate NetworkPolicy name"] else []

def namespaceErrors (name : String) (doc : Yaml) : Option (List String) :=
  let given := (doc.get "metadata").get "namespace"
  if given.truthy && !given.is expectedNamespace then
    (js.text given).map fun text =>
      [name ++ ": metadata.namespace=" ++ text ++ " is not " ++ expectedNamespace]
  else some []

def policyTypesErrors (name : String) (policyTypes : Yaml) : Option (List String) := do
  let missing := match policyTypes with
    | .seq (_ :: _) => []
    | _ => [name ++ ": missing spec.policyTypes"]
  let types ← (policyTypes.or (.seq [])).iterate
  let unknown ← (types.filter fun t => !t.is "Ingress" && !t.is "Egress").mapM fun t =>
    (js.text t).map fun text =>
      name ++ ": spec.policyTypes contains unknown value \"" ++ text ++
        "\" (must be Ingress or Egress)"
  some (missing ++ unknown)

def isKnown : Yaml → Bool
  | .string label => label ∈ knownAppLabels
  | _ => false

def appLabelErrors (name : String) (podSelector : Yaml) : Option (List String) :=
  let matchLabels := (podSelector.get "matchLabels").or (.map [])
  if matchLabels.hasOwn "app" && !isKnown (matchLabels.get "app") then
    (js.text (matchLabels.get "app")).map fun app =>
      [name ++ ": podSelector.matchLabels.app=\"" ++ app ++
        "\" is not in the documented allow-list (" ++ ", ".intercalate knownAppLabels ++ ")"]
  else some []

def targetsKubeSystem (e : Yaml) : Option Bool := do
  let peers ← ((← e.property "to").or (.seq [])).elements
  peers.anyM fun t => do
    let matchLabels := (← t.property "namespaceSelector").get "matchLabels"
    some (matchLabels.entries.any fun (k, v) =>
      k = "kubernetes.io/metadata.name" && v.is "kube-system")

/-- `e.ports || []`, as `flatMap` takes it. -/
def portsOf (e : Yaml) : List Yaml :=
  match (e.get "ports").or (.seq []) with
  | .seq ports => ports
  | value => [value]

def opensPort53 (protocol : String) (dnsPorts : List Yaml) : Option Bool :=
  dnsPorts.anyM fun p => do
    let port ← js.number (← p.property "port")
    some (port = .finite 53 && (p.get "protocol").is protocol)

def dnsErrors (name : String) (spec : Yaml) : Option (List String) := do
  let egress ← ((spec.get "egress").or (.seq [])).elements
  let dnsRules ← egress.filterM targetsKubeSystem
  if (spec.get "podSelector").entries.isEmpty && !dnsRules.isEmpty then
    let dnsPorts := dnsRules.flatMap portsOf
    let hasUdp53 ← opensPort53 js "UDP" dnsPorts
    let hasTcp53 ← opensPort53 js "TCP" dnsPorts
    if !hasUdp53 || !hasTcp53 then
      some [name ++ ": DNS egress must allow BOTH UDP and TCP port 53 (saw UDP=" ++
        toString hasUdp53 ++ ", TCP=" ++ toString hasTcp53 ++ ")"]
    else some []
  else some []

/-- What a document adds: its errors, its name and a policy. -/
structure Checked where
  errors : List String
  name : Option String
  policy : Option Policy

def checkSpec (name : String) (spec : Yaml) : Option (List String × Option Policy) :=
  let podSelector := spec.get "podSelector"
  if podSelector.truthy then do
    let policyTypes := spec.get "policyTypes"
    let types ← policyTypesErrors js name policyTypes
    let labels ← appLabelErrors js name podSelector
    let dns ← dnsErrors js name spec
    some (types ++ labels ++ dns, some ⟨name, spec, policyTypes.or (.seq [])⟩)
  else some ([name ++ ": missing spec.podSelector"], none)

/-- The turn of the loop for the document at index `i`. -/
def checkDoc (seenNames : List String) (i : Nat) (doc : Yaml) : Option Checked :=
  if doc.isNullish then some ⟨[], none, none⟩
  else if (doc.get "kind").is "NetworkPolicy" then do
    let apiVersion ← apiVersionErrors js (loc i) doc
    match nameOf doc with
    | none => some ⟨apiVersion ++ [loc i ++ ": missing metadata.name"], none, none⟩
    | some name =>
      let misplaced ← namespaceErrors js name doc
      let (errors, policy) ← checkSpec js name ((doc.get "spec").or (.map []))
      some ⟨apiVersion ++ nameErrors name seenNames ++ misplaced ++ errors, some name, policy⟩
  else (kindErrors js (loc i) doc).map fun errors => ⟨errors, none, none⟩

/-! ## The script -/

structure State where
  errors : List String
  seenNames : List String
  policies : List Policy

def State.add (checked : Checked) (s : State) : State where
  errors := s.errors ++ checked.errors
  seenNames := checked.name.toList ++ s.seenNames
  policies := s.policies ++ checked.policy.toList

def checkDocs : Nat → List Yaml → State → Option State
  | _, [], s => some s
  | i, doc :: docs, s =>
    (checkDoc js s.seenNames i doc).bind fun checked => checkDocs (i + 1) docs (s.add checked)

/-- `p.spec?.podSelector?.matchLabels?.app` -/
def appOf (spec : Yaml) : Yaml := ((spec.get "podSelector").get "matchLabels").get "app"

def targetedLabels (policies : List Policy) : List String :=
  (policies.filterMap fun p =>
    match appOf p.spec with
    | .string app => if app ∈ knownAppLabels then some app else none
    | _ => none).eraseDups

/-- What the last check takes for a policy that lets something in to the app. -/
def allows (app : String) (p : Policy) : Bool :=
  (appOf p.spec).is app && p.policyTypes.includes "Ingress" && (p.spec.get "ingress").truthy

def ingressErrors (policies : List Policy) : List String :=
  (targetedLabels policies).flatMap fun app =>
    if (policies.filter (allows app)).length = 0 then
      ["app=" ++ app ++ " has no ingress allow policy"]
    else []

inductive Exit where
  | ok (line : String)
  | failed (lines : List String)
  | threw

def Exit.code : Exit → Nat
  | .ok _ => 0
  | .failed _ | .threw => 1

def summary (target : String) (policies : List Policy) : String :=
  let count := fun type => (policies.filter fun p => p.policyTypes.includes type).length
  "NetworkPolicy validation OK (" ++ target ++ ") — " ++ toString policies.length ++
    " policies (" ++ toString (count "Ingress") ++ " ingress, " ++ toString (count "Egress") ++
    " egress, " ++ toString (targetedLabels policies).length ++ " app labels reachable)"

/-- The script, once it has parsed the file. -/
def main (target : String) (docs : List Yaml) : Exit :=
  match checkDocs js 0 docs ⟨[], [], []⟩ with
  | none => .threw
  | some s =>
    let errors := s.errors ++ ingressErrors s.policies
    if errors.length > 0 then
      .failed (("NetworkPolicy validation failed (" ++ target ++ "):") ::
        errors.map fun e => "  - " ++ e)
    else .ok (summary target s.policies)

end

/-! ## What passes -/

variable {js : Yaml.Conversions}

def namespaceOf (doc : Yaml) : Yaml := (doc.get "metadata").get "namespace"

/-- What a document without errors has in common with its policy. -/
structure Passes (doc : Yaml) (p : Policy) : Prop where
  name : nameOf doc = some p.name
  placed : (namespaceOf doc).truthy = true → (namespaceOf doc).is expectedNamespace = true
  spec : ∀ key, p.spec.get key = (doc.get "spec").get key
  policyTypes : p.policyTypes = (doc.get "spec").get "policyTypes"

theorem notMem_of_nameErrors {name : String} {seenNames : List String}
    (h : nameErrors name seenNames = []) : name ∉ seenNames := by
  intro hmem
  rw [nameErrors, if_pos hmem] at h
  cases h

theorem placed_of_namespaceErrors {name : String} {doc : Yaml}
    (h : namespaceErrors js name doc = some []) (hgiven : (namespaceOf doc).truthy = true) :
    (namespaceOf doc).is expectedNamespace = true := by
  by_contra hother
  rw [Bool.not_eq_true] at hother
  rw [namespaceErrors] at h
  simp only [show (doc.get "metadata").get "namespace" = namespaceOf doc from rfl, hgiven, hother,
    Bool.not_false, Bool.and_self, if_true, Option.map_eq_some_iff] at h
  obtain ⟨text, -, herror⟩ := h
  cases herror

/-- Policy types that pass are a list with something in it. -/
theorem types_of_policyTypesErrors {name : String} {policyTypes : Yaml}
    (h : policyTypesErrors js name policyTypes = some []) :
    ∃ t ts, policyTypes = .seq (t :: ts) := by
  simp only [policyTypesErrors, bind, Option.bind_eq_some_iff] at h
  obtain ⟨types, -, unknown, -, hnone⟩ := h
  have hmissing := (List.append_eq_nil_iff.mp (Option.some.inj hnone)).1
  split at hmissing
  · next t ts => exact ⟨t, ts, rfl⟩
  · cases hmissing

theorem policy_of_checkSpec {name : String} {spec : Yaml} {policy : Option Policy}
    (h : checkSpec js name spec = some ([], policy)) :
    policy = some ⟨name, spec, spec.get "policyTypes"⟩ := by
  rw [checkSpec] at h
  split at h
  · simp only [bind, Option.bind_eq_some_iff] at h
    obtain ⟨types, htypes, labels, -, dns, -, hchecked⟩ := h
    obtain ⟨hnone, hpolicy⟩ := Prod.mk.inj (Option.some.inj hchecked)
    have hclean := (List.append_eq_nil_iff.mp (List.append_eq_nil_iff.mp hnone).1).1
    obtain ⟨t, ts, hseq⟩ := types_of_policyTypesErrors (hclean ▸ htypes)
    rw [← hpolicy, hseq]
    rfl
  · cases h

/-- A specification that is left out has no properties, as an empty one. -/
theorem get_or_empty (value : Yaml) (key : String) :
    (value.or (.map [])).get key = value.get key := by
  rw [Yaml.or]
  split
  · rfl
  · next hfalsy =>
    cases value with
    | map fields => exact absurd rfl hfalsy
    | _ => rfl

/-- A document without errors is empty, or it is a policy with a name of its own. -/
theorem checkDoc_clean {seenNames : List String} {i : Nat} {doc : Yaml} {checked : Checked}
    (h : checkDoc js seenNames i doc = some checked) (hclean : checked.errors = []) :
    (doc.isNullish = true ∧ checked = ⟨[], none, none⟩) ∨
      doc.isNullish = false ∧ ∃ p, Passes doc p ∧ p.name ∉ seenNames ∧
        checked = ⟨[], some p.name, some p⟩ := by
  rw [checkDoc] at h
  split at h
  · next hnullish => exact .inl ⟨hnullish, (Option.some.inj h).symm⟩
  next hthere =>
  refine .inr ⟨Bool.eq_false_iff.mpr hthere, ?_⟩
  split at h
  · simp only [bind, Option.bind_eq_some_iff] at h
    obtain ⟨apiVersion, -, h⟩ := h
    split at h
    · cases h
      exact absurd (List.append_eq_nil_iff.mp hclean).2 (List.cons_ne_nil _ _)
    · next name hname =>
      simp only [Option.bind_eq_some_iff] at h
      obtain ⟨misplaced, hmisplaced, ⟨errors, policy⟩, hspec, hchecked⟩ := h
      cases hchecked
      obtain ⟨hbefore, hnone⟩ := List.append_eq_nil_iff.mp hclean
      obtain rfl : errors = [] := hnone
      obtain ⟨hnamed, rfl⟩ := List.append_eq_nil_iff.mp hbefore
      obtain ⟨rfl, hfresh⟩ := List.append_eq_nil_iff.mp hnamed
      obtain rfl := policy_of_checkSpec hspec
      refine ⟨⟨name, (doc.get "spec").or (.map []), ((doc.get "spec").or (.map [])).get
        "policyTypes"⟩, ⟨hname, placed_of_namespaceErrors hmisplaced, get_or_empty _,
          get_or_empty _ _⟩, notMem_of_nameErrors hfresh, ?_⟩
      rw [hfresh]
      rfl
  · simp only [Option.map_eq_some_iff, kindErrors] at h
    obtain ⟨errors, ⟨kind, -, rfl⟩, rfl⟩ := h
    cases hclean

/-! ## The loop -/

/-- The documents that hold something. -/
def given (docs : List Yaml) : List Yaml := docs.filter fun doc => !doc.isNullish

theorem checkDocs_clean {i : Nat} {docs : List Yaml} {s t : State}
    (h : checkDocs js i docs s = some t) (hclean : t.errors = []) :
    s.errors = [] ∧ ∃ ps, t.policies = s.policies ++ ps ∧ List.Forall₂ Passes (given docs) ps ∧
      (ps.map Policy.name).Nodup ∧ ∀ p ∈ ps, p.name ∉ s.seenNames := by
  induction docs generalizing i s with
  | nil =>
    cases h
    exact ⟨hclean, [], (List.append_nil _).symm, .nil, List.nodup_nil, List.forall_mem_nil _⟩
  | cons doc docs ih =>
    obtain ⟨checked, hchecked, hrest⟩ := Option.bind_eq_some_iff.mp h
    obtain ⟨herrors, ps, hpolicies, hpasses, hnames, hfresh⟩ := ih hrest
    obtain ⟨herrors, hnone⟩ := List.append_eq_nil_iff.mp herrors
    refine ⟨herrors, ?_⟩
    rcases checkDoc_clean hchecked hnone with ⟨hempty, rfl⟩ | ⟨hthere, p, hp, hnew, rfl⟩
    · refine ⟨ps, ?_, ?_, hnames, hfresh⟩
      · rw [hpolicies]
        exact congrArg (· ++ ps) (List.append_nil s.policies)
      · rw [given, List.filter_cons, hempty]
        exact hpasses
    · refine ⟨p :: ps, ?_, ?_, ?_, ?_⟩
      · rw [hpolicies, State.add, List.append_assoc]
        rfl
      · rw [given, List.filter_cons, hthere]
        exact .cons hp hpasses
      · refine List.nodup_cons.mpr ⟨fun hmem => ?_, hnames⟩
        obtain ⟨other, hother, hsame⟩ := List.mem_map.mp hmem
        exact hfresh other hother (hsame ▸ List.mem_cons_self)
      · intro q hq
        rcases List.mem_cons.mp hq with rfl | hlater
        · exact hnew
        · exact fun hseen => hfresh q hlater (List.mem_cons_of_mem _ hseen)

/-! ## The last check -/

theorem mem_targetedLabels {policies : List Policy} {app : String} :
    app ∈ targetedLabels policies ↔
      app ∈ knownAppLabels ∧ ∃ p ∈ policies, (appOf p.spec).is app = true := by
  rw [targetedLabels, List.mem_eraseDups, List.mem_filterMap]
  constructor
  · rintro ⟨p, hp, happ⟩
    split at happ
    · next label hlabel =>
      split at happ
      · next hknown =>
        cases happ
        exact ⟨hknown, p, hp, Yaml.is_eq_true.mpr hlabel⟩
      · cases happ
    · cases happ
  · rintro ⟨hknown, p, hp, happ⟩
    refine ⟨p, hp, ?_⟩
    rw [Yaml.is_eq_true.mp happ]
    exact if_pos hknown

/-- Without an error every label that is selected has a policy that counts. -/
theorem allows_of_ingressErrors {policies : List Policy} (h : ingressErrors policies = [])
    {app : String} (happ : app ∈ targetedLabels policies) :
    ∃ p ∈ policies, allows app p = true := by
  have hnone := List.flatMap_eq_nil_iff.mp h app happ
  split at hnone
  · cases hnone
  · next hsome =>
    obtain ⟨p, hp⟩ := List.exists_mem_of_length_pos (Nat.pos_of_ne_zero hsome)
    exact ⟨p, List.mem_filter.mp hp⟩

/-- Where the script exits with 0, each document is a policy, with the names apart, and each
label that is selected has a policy that counts. -/
theorem of_main_ok {target : String} {docs : List Yaml} (h : (main js target docs).code = 0) :
    ∃ ps, List.Forall₂ Passes (given docs) ps ∧ (ps.map Policy.name).Nodup ∧
      ∀ app ∈ targetedLabels ps, ∃ p ∈ ps, allows app p = true := by
  rw [main] at h
  split at h
  · cases h
  · next s hs =>
    dsimp only at h
    split at h
    · cases h
    · next hnone =>
      have hnone := List.eq_nil_of_length_eq_zero (Nat.eq_zero_of_not_pos hnone)
      obtain ⟨herrors, hingress⟩ := List.append_eq_nil_iff.mp hnone
      obtain ⟨-, ps, hpolicies, hpasses, hnames, -⟩ := checkDocs_clean hs herrors
      rw [hpolicies, List.nil_append] at hingress
      exact ⟨ps, hpasses, hnames, fun app happ => allows_of_ingressErrors hingress happ⟩

/-! ## What it is to say -/

def Selects (app : String) (doc : Yaml) : Prop := (appOf (doc.get "spec")).is app = true

def IsIngress (doc : Yaml) : Prop :=
  ((doc.get "spec").get "policyTypes").includes "Ingress" = true

/-- The rules in a list of `ingress`. -/
def ingressRules (doc : Yaml) : List Yaml :=
  match (doc.get "spec").get "ingress" with
  | .seq rules => rules
  | _ => []

/-- At least one ingress rule. -/
def HasRules (doc : Yaml) : Prop := ingressRules doc ≠ []

instance (app : String) (doc : Yaml) : Decidable (Selects app doc) :=
  inferInstanceAs (Decidable (_ = _))

instance (doc : Yaml) : Decidable (IsIngress doc) := inferInstanceAs (Decidable (_ = _))

instance (doc : Yaml) : Decidable (HasRules doc) := inferInstanceAs (Decidable (¬_ = _))

/-- Names are unique, every policy is in the namespace, and every documented label is selected
by a policy that allows ingress. -/
structure Sound (docs : List Yaml) : Prop where
  names : ((given docs).map fun doc => (doc.get "metadata").get "name").Nodup
  namespaces : ∀ doc ∈ given docs, namespaceOf doc = .string expectedNamespace
  reachable : ∀ app ∈ knownAppLabels,
    ∃ doc ∈ given docs, Selects app doc ∧ IsIngress doc ∧ HasRules doc

/-- The gaps of the script are not used: a namespace is given, a policy is there for each
label, and `ingress` without a rule is not all that a label has. -/
structure Gapless (docs : List Yaml) : Prop where
  placed : ∀ doc ∈ given docs, (namespaceOf doc).truthy = true
  selected : ∀ app ∈ knownAppLabels, ∃ doc ∈ given docs, Selects app doc
  ruled : ∀ app ∈ knownAppLabels, ∀ doc ∈ given docs, Selects app doc → IsIngress doc →
    ((doc.get "spec").get "ingress").truthy = true → ¬HasRules doc →
    ∃ other ∈ given docs, Selects app other ∧ IsIngress other ∧ HasRules other

theorem Passes.appOf_eq {doc : Yaml} {p : Policy} (h : Passes doc p) :
    appOf p.spec = appOf (doc.get "spec") := by
  rw [appOf, appOf, h.spec]

/-- A policy that counts for a label is one of its Ingress policies, and gives `ingress`. -/
theorem Passes.allows_iff {doc : Yaml} {p : Policy} (h : Passes doc p) {app : String} :
    allows app p = true ↔
      Selects app doc ∧ IsIngress doc ∧ ((doc.get "spec").get "ingress").truthy = true := by
  rw [allows, h.appOf_eq, h.policyTypes, h.spec, Bool.and_eq_true, Bool.and_eq_true, and_assoc]
  rfl

theorem Passes.name_eq {doc : Yaml} {p : Policy} (h : Passes doc p) :
    (doc.get "metadata").get "name" = .string p.name := by
  have hname := h.name
  rw [nameOf] at hname
  split at hname
  · next name heq =>
    split at hname
    · cases hname
    · rw [heq, Option.some.inj hname]
  · cases hname

/-- The names of the documents are those of the policies. -/
theorem map_name_of_passes {docs : List Yaml} {ps : List Policy}
    (h : List.Forall₂ Passes docs ps) :
    (docs.map fun doc => (doc.get "metadata").get "name") =
      (ps.map Policy.name).map Yaml.string := by
  induction h with
  | nil => rfl
  | cons hpasses _ ih => rw [List.map_cons, List.map_cons, List.map_cons, ih, hpasses.name_eq]

/-- A document has a policy, and a policy has a document. -/
theorem exists_of_passes {docs : List Yaml} {ps : List Policy} (h : List.Forall₂ Passes docs ps) :
    (∀ doc ∈ docs, ∃ p ∈ ps, Passes doc p) ∧ ∀ p ∈ ps, ∃ doc ∈ docs, Passes doc p := by
  induction h with
  | nil => exact ⟨List.forall_mem_nil _, List.forall_mem_nil _⟩
  | cons hpasses _ ih =>
    obtain ⟨hdocs, hps⟩ := ih
    constructor
    · refine List.forall_mem_cons.mpr ⟨⟨_, List.mem_cons_self, hpasses⟩, fun doc hdoc => ?_⟩
      obtain ⟨p, hp, hlater⟩ := hdocs doc hdoc
      exact ⟨p, List.mem_cons_of_mem _ hp, hlater⟩
    · refine List.forall_mem_cons.mpr ⟨⟨_, List.mem_cons_self, hpasses⟩, fun p hp => ?_⟩
      obtain ⟨doc, hdoc, hlater⟩ := hps p hp
      exact ⟨doc, List.mem_cons_of_mem _ hdoc, hlater⟩

/-- A manifest that the script accepts is sound exactly when it does not use a gap. -/
theorem sound_iff_gapless {target : String} {docs : List Yaml}
    (h : (main js target docs).code = 0) : Sound docs ↔ Gapless docs := by
  obtain ⟨ps, hpasses, hnames, hallows⟩ := of_main_ok h
  obtain ⟨hdocs, hps⟩ := exists_of_passes hpasses
  constructor
  · intro hsound
    refine ⟨fun doc hdoc => ?_, fun app happ => ?_, fun app happ _ _ _ _ _ _ =>
      hsound.reachable app happ⟩
    · rw [hsound.namespaces doc hdoc]
      decide
    · obtain ⟨doc, hdoc, hselects, -⟩ := hsound.reachable app happ
      exact ⟨doc, hdoc, hselects⟩
  · intro hgapless
    refine ⟨?_, fun doc hdoc => ?_, fun app happ => ?_⟩
    · rw [map_name_of_passes hpasses]
      exact List.Nodup.map (fun _ _ => Yaml.string.inj) hnames
    · obtain ⟨p, -, hdoc'⟩ := hdocs doc hdoc
      exact Yaml.is_eq_true.mp (hdoc'.placed (hgapless.placed doc hdoc))
    · obtain ⟨doc, hdoc, hselects⟩ := hgapless.selected app happ
      obtain ⟨p, hp, hdoc'⟩ := hdocs doc hdoc
      have htargeted : app ∈ targetedLabels ps :=
        mem_targetedLabels.mpr ⟨happ, p, hp, by rw [hdoc'.appOf_eq]; exact hselects⟩
      -- The policy that the last check has found may be one without rules.
      obtain ⟨q, hq, hcounts⟩ := hallows app htargeted
      obtain ⟨found, hfound, hfound'⟩ := hps q hq
      obtain ⟨hselects', hingress, htruthy⟩ := hfound'.allows_iff.mp hcounts
      by_cases hrules : HasRules found
      · exact ⟨found, hfound, hselects', hingress, hrules⟩
      · exact hgapless.ruled app happ found hfound hselects' hingress htruthy hrules

/-! ## Four manifests -/

/-- Numbers that are whole, and objects as they are written by default. -/
def plainConversions : Yaml.Conversions where
  numberText
    | .nan => "NaN"
    | .infinity negative => if negative then "-Infinity" else "Infinity"
    | .finite value => toString value
  parseNumber text := (text.toInt?.map fun n => .finite n).getD .nan
  objectText _ := some "[object Object]"
  objectNumber _ := some .nan

/-- A policy of a label, by its metadata and its ingress. -/
def document (app : String) (metadata : List (String × Yaml)) (ingress : List Yaml) : Yaml :=
  .map [("apiVersion", .string "networking.k8s.io/v1"), ("kind", .string "NetworkPolicy"),
    ("metadata", .map (("name", .string ("allow-" ++ app)) :: metadata)),
    ("spec", .map [
      ("podSelector", .map [("matchLabels", .map [("app", .string app)])]),
      ("policyTypes", .seq [.string "Ingress"]),
      ("ingress", .seq ingress)])]

def placedHere : List (String × Yaml) := [("namespace", .string "xstreamroll")]

/-- A rule that lets everything in. -/
def anyPeer : Yaml := .map []

def manifest : List Yaml := knownAppLabels.map fun app => document app placedHere [anyPeer]

theorem gapless_manifest : Gapless manifest where
  placed := by decide
  selected := by decide
  ruled := by decide

theorem sound_iff_gapless_manifest :
    (main plainConversions "k8s/70-network-policies.yaml" manifest).code = 0 ∧ Sound manifest :=
  ⟨by decide, (@sound_iff_gapless plainConversions "k8s/70-network-policies.yaml" manifest
    (by decide)).mpr gapless_manifest⟩

/-- The manifest with a document for redis that is another one, or none. -/
def manifestWith (redis : List Yaml) : List Yaml :=
  manifest.take 4 ++ redis ++ manifest.drop 5

/-- The script accepts a manifest without a namespace, one with an empty list of rules, and one
without a policy for a label. -/
theorem main_accepts_gaps :
    ((main plainConversions "m.yaml" (manifestWith [document "redis" [] [anyPeer]])).code = 0 ∧
      ¬Sound (manifestWith [document "redis" [] [anyPeer]])) ∧
    ((main plainConversions "m.yaml" (manifestWith [document "redis" placedHere []])).code = 0 ∧
      ¬Sound (manifestWith [document "redis" placedHere []])) ∧
    ((main plainConversions "m.yaml" (manifestWith [])).code = 0 ∧ ¬Sound (manifestWith [])) := by
  refine ⟨⟨by decide, fun h => ?_⟩, ⟨by decide, fun h => ?_⟩, by decide, fun h => ?_⟩
  · have hplaced : ∀ doc ∈ given (manifestWith [document "redis" [] [anyPeer]]),
        (namespaceOf doc).is expectedNamespace = true := fun doc hdoc =>
      Yaml.is_eq_true.mpr (h.namespaces doc hdoc)
    revert hplaced
    decide
  · have hreachable := h.reachable
    revert hreachable
    decide
  · have hreachable := h.reachable
    revert hreachable
    decide

end NetworkPolicies
end Scripts
end XStreamRoll
