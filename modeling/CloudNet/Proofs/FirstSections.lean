import CloudNet.Document.Xml.Tree
import CloudNet.Proofs.Building
import Mathlib.Logic.Relation

/-!
# What of a document matters

The root of a document may hold more than is read from it: text, elements of other names, and
sections that come a second time. A model depends on the first section of each name and on the
declared versions, and on nothing else below the right root.

The versions are looked up from the top of the document and not from its root, so that the last
element there counts. Only the root stands there unless an entity ends it early.

* `Document.declared?_of_no_later`: a root without other elements beside it declares the versions.
* `Content.first?_eq_of_rearrangement`: what one change of the order, or one more piece that does
  not count, leaves alone, and `Content.Rearranged.first?_eq` for any number of them.
* `NetworkModel.only_first_sections`: documents that agree in what matters give the same result.
* `NetworkModel.later_version_counts`: agreeing in the attributes of their roots is not enough.
-/

namespace CloudNet

/-! ## Declared versions -/

namespace Document

/-- The value of an attribute of the top level: the last one that an element with the name of a root
has there. -/
def declared? (d : Document) (name : String) : Option String :=
  ((d.topElements.filter (·.name = rootName)).filterMap (·.attr? name)).getLast?

theorem getLast?_values_root (d : Document) (name : String) :
    (d.values { absolute := true, steps := Route.child rootName, attr := some name }
      d.root).getLast? = d.declared? name := by
  unfold values select start declared?
  simp [Route.child, Element.follow_cons, Element.step, Element.satisfies, List.flatMap_singleton']

/-- A root without other elements beside it declares the versions. -/
theorem declared?_of_no_later {d : Document} (hroot : d.root.name = rootName) (h : d.later = [])
    (name : String) : d.declared? name = d.root.attr? name := by
  unfold declared? topElements
  rw [h]
  cases hattr : d.root.attr? name with
  | none => simp [hroot, hattr]
  | some value => simp [hroot, hattr]

end Document

/-- An entity ends the root before the second element of the top level. -/
example :
    ((Document.ofXml { allowDoctype := true }
      ("<!DOCTYPE network-data [<!ENTITY end '<x/></network-data>'>]>" ++
        "<network-data version='1'>&end;<network-data version='2'/>")).map
      fun d => (d.root.attr? "version", d.declared? "version")) = .ok (some "1", some "2") := by
  decide +kernel

/-! ## First sections -/

/-- The names of the sections. -/
def sectionNames : List String :=
  ["configuration", "instances", "securityGroups", "vpcs", "internetGateways", "dhcpOptionSets"]

namespace Content

/-- The first element of a name. -/
def first? (name : String) (cs : List Content) : Option Element :=
  (cs.filterMap element?).find? (·.name = name)

theorem first?_append (name : String) (cs cs' : List Content) :
    first? name (cs ++ cs') = (first? name cs).or (first? name cs') := by
  unfold first?
  rw [List.filterMap_append, List.find?_append]

theorem first?_cons (name : String) (c : Content) (cs : List Content) :
    first? name (c :: cs) = (first? name [c]).or (first? name cs) :=
  first?_append name [c] cs

theorem first?_eq_none_iff {name : String} {cs : List Content} :
    first? name cs = none ↔ ∀ c ∈ cs, ∀ e, c.element? = some e → e.name ≠ name := by
  unfold first?
  rw [List.find?_eq_none]
  simp only [List.mem_filterMap, decide_eq_true_eq]
  exact ⟨fun h c hc e he => h e ⟨c, hc, he⟩, fun h e ⟨c, hc, he⟩ => h c hc e he⟩

theorem first?_singleton_eq_none_iff {name : String} {c : Content} :
    first? name [c] = none ↔ ∀ e, c.element? = some e → e.name ≠ name := by
  rw [first?_eq_none_iff]
  exact List.forall_mem_singleton

/-- Two pieces of content are not both sections of one name. -/
def Apart (a b : Content) : Prop :=
  ∀ name ∈ sectionNames, first? name [a] = none ∨ first? name [b] = none

instance (a b : Content) : Decidable (a.Apart b) :=
  inferInstanceAs (Decidable (∀ name ∈ sectionNames, _ ∨ _))

/-- One change of content that leaves the first section of each name alone. -/
inductive Rearrangement : List Content → List Content → Prop
  /-- One more piece is there, text or an element that is no section. -/
  | extra (before after : List Content) {c : Content}
      (h : ∀ e, c.element? = some e → e.name ∉ sectionNames) :
      Rearrangement (before ++ after) (before ++ c :: after)
  /-- A section comes again. -/
  | again (before after : List Content) {first e : Element} (hfirst : first.toContent ∈ before)
      (hname : e.name = first.name) :
      Rearrangement (before ++ after) (before ++ e.toContent :: after)
  /-- Neighbours change places. -/
  | swap (before after : List Content) {a b : Content} (h : a.Apart b) :
      Rearrangement (before ++ a :: b :: after) (before ++ b :: a :: after)

/-- Content that comes from other content by such changes and by taking them back. -/
def Rearranged : List Content → List Content → Prop := Relation.EqvGen Rearrangement

/-- **One change** leaves the first section of each name alone. -/
theorem first?_eq_of_rearrangement {cs cs' : List Content} (h : Rearrangement cs cs')
    {name : String} (hname : name ∈ sectionNames) : first? name cs = first? name cs' := by
  cases h with
  | @extra before after c hc =>
    have hnone : first? name [c] = none := by
      rw [first?_singleton_eq_none_iff]
      rintro e he rfl
      exact hc e he hname
    rw [first?_append, first?_append, first?_cons name c, hnone, Option.none_or]
  | @again before after first e hfirst hsame =>
    rw [first?_append, first?_append, first?_cons name e.toContent]
    cases hbefore : first? name before with
    | some found => rfl
    | none =>
      -- the name is not that of the section, which would have been found before
      have hnone : first? name [e.toContent] = none := by
        rw [first?_singleton_eq_none_iff]
        rintro _ ⟨⟩
        exact hsame ▸ first?_eq_none_iff.1 hbefore _ hfirst first first.element?_toContent
      rw [hnone, Option.none_or, Option.none_or]
  | @swap before after a b hapart =>
    rw [first?_append, first?_append, first?_cons name a, first?_cons name b,
      first?_cons name b (a :: after), first?_cons name a after]
    rcases hapart name hname with ha | hb
    · rw [ha, Option.none_or, Option.none_or]
    · rw [hb, Option.none_or, Option.none_or]

/-- **Any number of changes** leaves the first section of each name alone. -/
theorem Rearranged.first?_eq {cs cs' : List Content} (h : Rearranged cs cs') {name : String}
    (hname : name ∈ sectionNames) : first? name cs = first? name cs' := by
  induction h with
  | rel _ _ hstep => exact first?_eq_of_rearrangement hstep hname
  | refl _ => rfl
  | symm _ _ _ ih => exact ih.symm
  | trans _ _ _ _ _ ih ih' => exact ih.trans ih'

theorem Rearrangement.cons {cs cs' : List Content} (h : Rearrangement cs cs') (c : Content) :
    Rearrangement (c :: cs) (c :: cs') := by
  cases h with
  | extra before after hextra => exact .extra (c :: before) after hextra
  | again before after hfirst hname =>
    exact .again (c :: before) after (List.mem_cons_of_mem c hfirst) hname
  | swap before after hapart => exact .swap (c :: before) after hapart

theorem Rearranged.cons {cs cs' : List Content} (h : Rearranged cs cs') (c : Content) :
    Rearranged (c :: cs) (c :: cs') := by
  induction h with
  | rel _ _ hstep => exact .rel _ _ (hstep.cons c)
  | refl _ => exact .refl _
  | symm _ _ _ ih => exact ih.symm
  | trans _ _ _ _ _ ih ih' => exact ih.trans _ _ _ ih'

/-- Sections that come once may come in any order. -/
theorem rearranged_of_perm {cs cs' : List Content} (hp : cs.Perm cs') (h : cs.Pairwise Apart) :
    Rearranged cs cs' := by
  have hsymm : ∀ {a b : Content}, a.Apart b → b.Apart a := fun hab name hname =>
    (hab name hname).symm
  induction hp with
  | nil => exact .refl []
  | cons c _ ih => exact (ih (List.pairwise_cons.1 h).2).cons c
  | swap a b cs =>
    have hba : b.Apart a := (List.pairwise_cons.1 h).1 a List.mem_cons_self
    exact .rel _ _ (.swap [] cs hba)
  | trans hp _ ih ih' => exact (ih h).trans _ _ _ (ih' ((hp.pairwise_iff hsymm).1 h))

end Content

/-! ## Documents that agree -/

namespace Document

/-- The document with other content below its root. -/
def withContent (d : Document) (content : List Content) : Document :=
  { d with root := { d.root with content } }

theorem declared?_withContent (d : Document) (content : List Content) (name : String) :
    (d.withContent content).declared? name = d.declared? name := by
  unfold declared? topElements withContent
  by_cases hroot : d.root.name = rootName
  · simp [hroot, Element.attr?]
  · simp [hroot]

/-- The sections are the first elements of their names. -/
theorem sections_congr {d d' : Document}
    (h : ∀ name ∈ sectionNames,
      Content.first? name d.root.content = Content.first? name d'.root.content) :
    d.sections = d'.sections := by
  have hfirst : ∀ name ∈ sectionNames, d.root.children.find? (fun e => e.name = name) =
      d'.root.children.find? (fun e => e.name = name) := h
  simp only [sectionNames, List.forall_mem_cons] at hfirst
  obtain ⟨hconfiguration, hinstances, hgroups, hvpcs, hgateways, hsets, -⟩ := hfirst
  unfold sections
  simp only [hconfiguration, hinstances, hgroups, hvpcs, hgateways, hsets]

end Document

namespace NetworkModel

section Agreement

variable {d d' : Document} (hversion : d.declared? "version" = d'.declared? "version")
  (happlied : d.declared? "applied-version" = d'.declared? "applied-version")

include hversion happlied

/-- The header depends on the declared versions and the configuration section. -/
theorem withHeader_congr (m : NetworkModel) (configuration : Option Element) :
    m.withHeader d configuration = m.withHeader d' configuration := by
  unfold withHeader
  simp only [Document.getLast?_values_root, hversion, happlied]

/-- All passes together depend on the declared versions and the sections. -/
theorem assemble_congr (hsections : d.sections = d'.sections) (withAll : Bool)
    (hostnames : HostnameCache) :
    assemble d withAll hostnames = assemble d' withAll hostnames := by
  unfold assemble
  simp only [hsections, withHeader_congr hversion happlied]

/-- A build depends on the name of the root, too. -/
theorem ofDocument_congr (hsections : d.sections = d'.sections)
    (hroot : d.root.name = d'.root.name) (extent : Extent) (hostnames : HostnameCache) :
    ofDocument d extent hostnames = ofDocument d' extent hostnames := by
  rw [ofDocument_eq, ofDocument_eq]
  simp only [hroot, assemble_congr hversion happlied hsections]

end Agreement

/-- **Only the first section of each name matters.** Documents that declare the same versions and
have the same first sections give the same model, or the same fault, with the same notices. So do
the contents that a document's content can be rearranged to. The versions that are declared are
those of the root if no other element stands beside it. -/
theorem only_first_sections {d d' : Document} (hroot : d.root.name = rootName)
    (hroot' : d'.root.name = rootName)
    (hversion : d.declared? "version" = d'.declared? "version")
    (happlied : d.declared? "applied-version" = d'.declared? "applied-version")
    (hfirst : ∀ name ∈ sectionNames,
      Content.first? name d.root.content = Content.first? name d'.root.content)
    (extent : Extent) (hostnames : HostnameCache) :
    ofDocument d extent hostnames = ofDocument d' extent hostnames ∧
    (∀ content, Content.Rearranged d.root.content content →
      ofDocument (d.withContent content) extent hostnames = ofDocument d extent hostnames) ∧
    (d.later = [] → ∀ name, d.declared? name = d.root.attr? name) := by
  refine ⟨?_, ?_, Document.declared?_of_no_later hroot⟩
  · have hsections : d.sections = d'.sections := Document.sections_congr hfirst
    exact ofDocument_congr hversion happlied hsections (hroot.trans hroot'.symm) extent hostnames
  · intro content h
    have hsections : (d.withContent content).sections = d.sections :=
      Document.sections_congr fun name hname => (h.first?_eq hname).symm
    exact ofDocument_congr (d.declared?_withContent content "version")
      (d.declared?_withContent content "applied-version") hsections rfl extent hostnames

end NetworkModel

/-! ## Two networks in other words -/

namespace Sample

/-- The small network with its sections in the opposite order, behind an element of another name,
and with an empty configuration after its own. -/
def shuffled : Document :=
  network.withContent
    (part "remarks" [] :: network.root.content.reverse ++ [part "configuration" []])

theorem rearranged_network : Content.Rearranged network.root.content shuffled.root.content := by
  have hreverse : Content.Rearranged network.root.content network.root.content.reverse :=
    Content.rearranged_of_perm (List.reverse_perm _).symm (by decide +kernel)
  have hextra : Content.Rearrangement network.root.content.reverse
      (part "remarks" [] :: network.root.content.reverse) :=
    .extra [] _ (by rintro _ ⟨⟩; decide)
  have hagain : Content.Rearrangement (part "remarks" [] :: network.root.content.reverse ++ [])
      shuffled.root.content :=
    @Content.Rearrangement.again _ [] ⟨"configuration", [], _⟩ ⟨"configuration", [], []⟩
      (List.mem_cons_of_mem _ (List.mem_reverse.2 List.mem_cons_self)) rfl
  rw [List.append_nil] at hagain
  exact hreverse.trans _ _ _ ((Relation.EqvGen.rel _ _ hextra).trans _ _ _ (.rel _ _ hagain))

/-- The network without a rule, whose root is followed by another element of its name. -/
def endedEarly : Document :=
  { guarded [] with later := [⟨"network-data", [{ name := "version", value := "8" }], []⟩] }

end Sample

namespace NetworkModel

/-- The shuffled network has the model of the small one, and the version of its root. -/
theorem first_sections_of_shuffled :
    Content.Rearranged Sample.network.root.content Sample.shuffled.root.content ∧
    (ofDocument Sample.network .all {}).value = .ok Sample.model ∧
    (ofDocument Sample.shuffled .all {}).value = .ok Sample.model ∧
    Sample.shuffled.declared? "version" = some "7" := by
  have hfirst : ∀ name ∈ sectionNames,
      Content.first? name Sample.shuffled.root.content =
        Content.first? name Sample.network.root.content :=
    fun name hname => (Sample.rearranged_network.first?_eq hname).symm
  obtain ⟨hsame, -, hdeclared⟩ :=
    only_first_sections (by rfl) (by rfl) (by rfl) (by rfl) hfirst .all {}
  exact ⟨Sample.rearranged_network, Sample.ofDocument_network, hsame ▸ Sample.ofDocument_network,
    hdeclared rfl "version"⟩

/-- Two documents of one and the same root may have different versions. -/
theorem later_version_counts :
    Sample.endedEarly.root = (Sample.guarded []).root ∧
    Sample.endedEarly.root.name = rootName ∧
    (ofDocument (Sample.guarded []) .configOnly {}).value.map version = .ok "7" ∧
    (ofDocument Sample.endedEarly .configOnly {}).value.map version = .ok "8" :=
  ⟨rfl, rfl, by decide +kernel, by decide +kernel⟩

end NetworkModel

end CloudNet
