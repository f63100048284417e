import CloudNet.Proofs.Addresses
import CloudNet.Proofs.Bisection
import CloudNet.Settings
import Mathlib.Data.List.Nodup

/-!
# Hostnames of listed addresses

The hostnames that a run is told are one text, items `address=hostname` with commas between them.
An item that is malformed is left out, and what is left out has no part in how the others are read:
the text is cut at its commas first, and each item is looked at alone. The entries are then sorted,
so of items with distinct addresses the order is forgotten, and bisection finds each of them.

* `Settings.value_hostnamesOf_joinWith`: items are read one by one.
* `entryOf?_of_gives`, `entryOf?_of_malformed`: what an item gives, and that a malformed one gives
  nothing. There are no others (`gives_or_malformed`).
* `lists_iff`, `exists_lists`: what items list, and that every text lists hostnames.
* `lookup_of_mem`, `lookup_eq_none`: look-up in a cache without two hostnames of one address.
* `listed_hostnames_found`: the cache of a text has the hostnames that are listed, look-up answers
  each of them and no other, and the order of the items does not matter.
-/

namespace CloudNet

/-! ## Reading a list of items -/

namespace Settings

/-- **Blanks around an item do not matter.** -/
theorem hostname?_trim (item : String) : hostname? (Text.trim item) = hostname? item := by
  unfold hostname? Text.trim
  rw [String.toList_ofList, Text.cutAt_trimChars (by decide)]
  cases Text.cutAt '=' item.toList with
  | none => rfl
  | some sides =>
    obtain ⟨address, host⟩ := sides
    simp only [Option.map_some, (Text.padded_trimStart address).trimChars_eq,
      (Text.padded_trimEnd host).trimChars_eq]

/-- **The items of a list are read one by one.** -/
theorem value_hostnamesOf_joinWith {items : List String} (h : ∀ item ∈ items, ',' ∉ item.toList) :
    (hostnamesOf (Text.joinWith "," items)).value = items.filterMap hostname? := by
  by_cases hne : items = []
  · subst hne
    decide
  have hsplit : (Text.joinWith "," items).toList.splitOnP (· = ',') = items.map String.toList :=
    Text.splitOn_joinWith hne h
  unfold hostnamesOf Settings.items
  rw [hsplit]
  simp only [List.map_map, List.filter_map, List.filterMap_map, List.filterMap_filter]
  refine List.filterMap_congr fun item _ => ?_
  -- an item without text would be left out anyhow
  by_cases hnil : Text.trimChars item.toList = []
  · rw [← hostname?_trim item, Text.trim, hnil]
    simp [hnil, hostname?, Text.cutAt]
  · simpa [hnil, Text.trim] using hostname?_trim item

end Settings

namespace HostnameCache

/-- The cache of the items in a text. -/
def ofItems (s : String) : Noted HostnameCache := do
  ofPairs (← Settings.hostnamesOf s)

/-- The entry that an item makes, if it makes one. -/
def entryOf? (item : String) : Option Hostname :=
  (Settings.hostname? item).bind fun pair => (entry pair).toOption

/-- The cache of a list has the entries that its items make. -/
theorem perm_entries_ofItems {items : List String} (h : ∀ item ∈ items, ',' ∉ item.toList) :
    (ofItems (Text.joinWith "," items)).value.entries.Perm (items.filterMap entryOf?) := by
  have hread : (items.filterMap Settings.hostname?).filterMap (fun pair => (entry pair).toOption) =
      items.filterMap entryOf? := List.filterMap_filterMap
  rw [← hread]
  unfold ofItems
  rw [Noted.value_bind, Settings.value_hostnamesOf_joinWith h]
  unfold ofPairs
  dsimp only
  rw [List.filterMap_map]
  exact List.mergeSort_perm _ _

/-! ## Items -/

/-- The item gives the hostname: dotted quad and hostname, with blanks around each. A hostname can
have blanks and `=` in it, but no blank at either end and no comma. -/
structure Gives (item : String) (h : Hostname) : Prop where
  nonempty : h.hostname ≠ ""
  trimmed : Text.trim h.hostname = h.hostname
  noComma : ',' ∉ h.hostname.toList
  written : ∃ x y, Text.Padded h.ip.dotted.toList x ∧ Text.Padded h.hostname.toList y ∧
    item.toList = x ++ '=' :: y

/-- The item has no `=`, nothing on one side of the first one, or no address before it. -/
inductive Malformed (item : String) : Prop where
  | noSign (h : '=' ∉ item.toList)
  | emptySide {x y : List Char} (h : item.toList = x ++ '=' :: y) (hx : '=' ∉ x)
    (hempty : (∀ c ∈ x, Text.isBlank c = true) ∨ ∀ c ∈ y, Text.isBlank c = true)
  | noAddress {x y : List Char} (h : item.toList = x ++ '=' :: y) (hx : '=' ∉ x)
    (hnone : ∀ a : Ipv4, ¬ Text.Padded a.dotted.toList x)

/-- The items give the hostnames in turn, with malformed ones between them. -/
inductive Lists : List String → List Hostname → Prop where
  | nil : Lists [] []
  | gives {item : String} {items : List String} {h : Hostname} {hosts : List Hostname}
    (hitem : Gives item h) (hrest : Lists items hosts) : Lists (item :: items) (h :: hosts)
  | malformed {item : String} {items : List String} {hosts : List Hostname}
    (hcomma : ',' ∉ item.toList) (hitem : Malformed item) (hrest : Lists items hosts) :
    Lists (item :: items) hosts

variable {item : String} {h : Hostname}

theorem notMem_of_padded_dotted {s : List Char} {a : Ipv4} (hs : Text.Padded a.dotted.toList s)
    {c : Char} (hdot : c ≠ '.') (hdigit : Text.isDigit c = false) (hblank : Text.isBlank c = false) :
    c ∉ s := by
  intro hc
  rcases hs.mem_or hc with hmem | hc
  · rcases Cidr.mem_dotted hmem with hc | hc
    · exact hdot hc
    · exact absurd hc (by rw [hdigit]; exact Bool.false_ne_true)
  · exact absurd hc (by rw [hblank]; exact Bool.false_ne_true)

/-- An item that gives a hostname is one item. -/
theorem Gives.comma_notMem (hg : Gives item h) : ',' ∉ item.toList := by
  obtain ⟨x, y, hx, hy, hitem⟩ := hg.written
  rw [hitem, List.mem_append, List.mem_cons]
  rintro (hmem | heq | hmem)
  · exact notMem_of_padded_dotted hx (by decide) (by decide) (by decide) hmem
  · exact absurd heq (by decide)
  · rcases hy.mem_or hmem with hhost | hblank
    · exact hg.noComma hhost
    · exact absurd hblank (by decide)

/-- **An item that gives a hostname makes the entry of it.** -/
theorem entryOf?_of_gives (hg : Gives item h) : entryOf? item = some h := by
  obtain ⟨x, y, hx, hy, hitem⟩ := hg.written
  have hsign : '=' ∉ x := notMem_of_padded_dotted hx (by decide) (by decide) (by decide)
  have haddress : Text.trimChars x = h.ip.dotted.toList :=
    hx.trimChars_eq.trans (Text.trimChars_of_no_blank fun _ => Cidr.not_isBlank_of_mem_dotted)
  have hhost : Text.trimChars y = h.hostname.toList := by
    rw [hy.trimChars_eq, ← String.toList_ofList (l := Text.trimChars _)]
    exact congrArg String.toList hg.trimmed
  have hsides : ¬ (h.ip.dotted.toList = [] ∨ h.hostname.toList = []) := by
    rw [String.toList_eq_nil_iff (b := h.hostname)]
    exact not_or.2 ⟨Cidr.dotted_ne_nil h.ip, hg.nonempty⟩
  have hread : Settings.hostname? item = some (h.ip.dotted, h.hostname) := by
    unfold Settings.hostname?
    rw [hitem, Text.cutAt_append hsign]
    dsimp only
    rw [haddress, hhost, if_neg (by simpa only [Bool.or_eq_true, decide_eq_true_eq] using hsides),
      String.ofList_toList, String.ofList_toList]
  unfold entryOf? entry
  rw [hread]
  simp only [Option.bind_some, Ipv4.ofText?_dotted]
  rfl

/-- **A malformed item makes no entry.** -/
theorem entryOf?_of_malformed (hm : Malformed item) : entryOf? item = none := by
  unfold entryOf?
  cases hm with
  | noSign hsign =>
    have hread : Settings.hostname? item = none := by
      unfold Settings.hostname?
      rw [Text.cutAt_eq_none_iff.2 hsign]
    rw [hread]
    rfl
  | @emptySide x y hitem hx hempty =>
    have hnil {s : List Char} (hs : ∀ c ∈ s, Text.isBlank c = true) : Text.trimChars s = [] :=
      (Text.padded_nil_iff.2 hs).trimChars_eq
    have hread : Settings.hostname? item = none := by
      unfold Settings.hostname?
      rw [hitem, Text.cutAt_append hx]
      rcases hempty with hblank | hblank
      · simp [hnil hblank]
      · simp [hnil hblank]
    rw [hread]
    rfl
  | @noAddress x y hitem hx hnone =>
    have haddress : Ipv4.ofText? (String.ofList (Text.trimChars x)) = none := by
      refine Option.eq_none_iff_forall_ne_some.2 fun a ha => hnone a ?_
      exact Ipv4.ofText?_trimChars_eq_some_iff.1 ha
    unfold Settings.hostname?
    rw [hitem, Text.cutAt_append hx]
    dsimp only
    split
    · rfl
    · simp only [Option.bind_some, entry, haddress]
      rfl

/-- **There are no other items**: one that gives no hostname is malformed. -/
theorem gives_or_malformed (hcomma : ',' ∉ item.toList) :
    (∃ h, Gives item h) ∨ Malformed item := by
  cases hcut : Text.cutAt '=' item.toList with
  | none => exact .inr (.noSign (Text.cutAt_eq_none_iff.1 hcut))
  | some sides =>
    obtain ⟨x, y⟩ := sides
    obtain ⟨hitem, hx⟩ := Text.cutAt_eq_some hcut
    have hpadded := Text.padded_trimChars y
    by_cases hnil : Text.trimChars y = []
    · exact .inr (.emptySide hitem hx (.inr (Text.padded_nil_iff.1 (hnil ▸ hpadded))))
    by_cases hquad : ∃ a : Ipv4, Text.Padded a.dotted.toList x
    · obtain ⟨a, ha⟩ := hquad
      have hhost : (String.ofList (Text.trimChars y)).toList = Text.trimChars y :=
        String.toList_ofList
      refine .inl ⟨⟨a, String.ofList (Text.trimChars y)⟩, ?_, ?_, ?_, x, y, ha, ?_, hitem⟩
      · exact mt String.ofList_eq_empty_iff.1 hnil
      · rw [Text.trim, hhost, ← hpadded.trimChars_eq]
      · rw [hhost]
        intro hmem
        refine hcomma ?_
        rw [hitem]
        exact List.mem_append_right _ (List.mem_cons_of_mem _ (hpadded.mem hmem))
      · rwa [hhost]
    · exact .inr (.noAddress hitem hx fun a ha => hquad ⟨a, ha⟩)

/-! ## Lists of items -/

variable {items : List String} {hosts : List Hostname}

theorem Lists.comma_notMem (hl : Lists items hosts) : ∀ item ∈ items, ',' ∉ item.toList := by
  induction hl with
  | nil => exact fun item hitem => absurd hitem List.not_mem_nil
  | gives hitem _ ih => exact List.forall_mem_cons.2 ⟨hitem.comma_notMem, ih⟩
  | malformed hcomma _ _ ih => exact List.forall_mem_cons.2 ⟨hcomma, ih⟩

/-- **The items make the entries that they list.** -/
theorem Lists.filterMap_entryOf? (hl : Lists items hosts) : items.filterMap entryOf? = hosts := by
  induction hl with
  | nil => rfl
  | gives hitem _ ih => rw [List.filterMap_cons_some (entryOf?_of_gives hitem), ih]
  | malformed _ hitem _ ih => rw [List.filterMap_cons_none (entryOf?_of_malformed hitem), ih]

/-- The cache of a list has the entries that its items give. -/
theorem Lists.perm_entries (hl : Lists items hosts) :
    (ofItems (Text.joinWith "," items)).value.entries.Perm hosts := by
  have hperm := perm_entries_ofItems hl.comma_notMem
  rwa [hl.filterMap_entryOf?] at hperm

/-- **What items list** is what they are read as, if each of them is one item. -/
theorem lists_iff : Lists items hosts ↔
    (∀ item ∈ items, ',' ∉ item.toList) ∧ items.filterMap entryOf? = hosts := by
  constructor
  · exact fun hl => ⟨hl.comma_notMem, hl.filterMap_entryOf?⟩
  · rintro ⟨hcomma, rfl⟩
    induction items with
    | nil => exact .nil
    | cons item items ih =>
      obtain ⟨hitem, hrest⟩ := List.forall_mem_cons.1 hcomma
      rcases gives_or_malformed hitem with ⟨h, hg⟩ | hm
      · rw [List.filterMap_cons_some (entryOf?_of_gives hg)]
        exact .gives hg (ih hrest)
      · rw [List.filterMap_cons_none (entryOf?_of_malformed hm)]
        exact .malformed hitem hm (ih hrest)

instance : Decidable (Lists items hosts) := decidable_of_iff' _ lists_iff

/-- **Every text lists hostnames.** -/
theorem exists_lists (s : String) :
    ∃ items hosts, Text.joinWith "," items = s ∧ Lists items hosts := by
  have hcomma : ∀ item ∈ (s.toList.splitOn ',').map String.ofList, ',' ∉ item.toList := by
    intro item hitem
    obtain ⟨cs, hcs, rfl⟩ := List.mem_map.1 hitem
    rw [String.toList_ofList]
    exact Text.notMem_of_mem_splitOn hcs
  exact ⟨_, _, Text.joinWith_splitOn ',' s, lists_iff.2 ⟨hcomma, rfl⟩⟩

/-! ## Look-up -/

variable {cache : HostnameCache} {text : String}

/-- Entries in order of address are in order as seen from every address. -/
theorem ordered_of_pairwise (hs : cache.entries.Pairwise fun a b => a.ip < b.ip) (ip : Ipv4) :
    Bisection.Ordered (fun h => compare h.ip ip) cache.entries := by
  refine hs.imp fun {a b} hab => ⟨fun ha => ?_, fun hb => ?_⟩
  · rw [Std.compare_eq_gt] at ha ⊢
    exact UInt32.lt_trans ha hab
  · rw [Std.compare_eq_lt] at hb ⊢
    exact UInt32.lt_trans hab hb

/-- **The hostname of an address is found** however much white space is around it. -/
theorem lookup_of_mem (hs : cache.entries.Pairwise fun a b => a.ip < b.ip)
    (hmem : h ∈ cache.entries) (ht : Text.Padded h.ip.dotted.toList text.toList) :
    cache.lookup text = some h.hostname := by
  have hunique : ∀ g ∈ cache.entries, compare g.ip h.ip = .eq → g = h := by
    intro g hg heq
    have hne : cache.entries.Pairwise fun a b => a.ip ≠ b.ip :=
      hs.imp fun hlt => UInt32.ne_of_lt hlt
    exact List.inj_on_of_nodup_map (List.pairwise_map.2 hne) hg hmem
      (Std.compare_eq_iff_eq.1 heq)
  unfold lookup
  rw [Ipv4.ofText?_eq_some_iff.2 ht, Option.bind_some,
    Bisection.search_eq_some (ordered_of_pairwise hs h.ip) hmem Std.compare_self hunique]
  rfl

/-- **Nothing is found** for a text that is no address with a hostname. -/
theorem lookup_eq_none (ht : ∀ h ∈ cache.entries, ¬ Text.Padded h.ip.dotted.toList text.toList) :
    cache.lookup text = none := by
  unfold lookup
  cases hread : Ipv4.ofText? text with
  | none => rfl
  | some ip =>
    rw [Option.bind_some]
    cases hsearch : Bisection.search (fun h : Hostname => compare h.ip ip) cache.entries with
    | none => rfl
    | some h =>
      obtain ⟨hmem, heq⟩ := Bisection.mem_of_search hsearch
      have hip : h.ip = ip := Std.compare_eq_iff_eq.1 heq
      exact absurd (hip ▸ Ipv4.ofText?_eq_some_iff.1 hread) (ht h hmem)

/-! ## Caches of listed hostnames -/

/-- The cache has these hostnames in ascending order of address, and it answers each address, with
or without blanks around it, and no other text. -/
structure Answers (cache : HostnameCache) (hosts : List Hostname) : Prop where
  entries : cache.entries.Perm hosts
  ascending : cache.entries.Pairwise fun a b => a.ip < b.ip
  found : ∀ h ∈ hosts, ∀ text : String, Text.Padded h.ip.dotted.toList text.toList →
    cache.lookup text = some h.hostname
  missing : ∀ text : String, (∀ h ∈ hosts, ¬ Text.Padded h.ip.dotted.toList text.toList) →
    cache.lookup text = none

/-- The entries of a text with distinct addresses are in strictly ascending order. -/
theorem Lists.ascending (hl : Lists items hosts) (hdistinct : (hosts.map Hostname.ip).Nodup) :
    (ofItems (Text.joinWith "," items)).value.entries.Pairwise fun a b => a.ip < b.ip := by
  have hnodup := (hl.perm_entries.map Hostname.ip).nodup_iff.2 hdistinct
  refine ((pairwise_ofPairs _).and (List.pairwise_map.1 hnodup)).imp fun {a b} hab => ?_
  exact UInt32.lt_of_le_of_ne hab.1 hab.2

theorem Lists.answers (hl : Lists items hosts) (hdistinct : (hosts.map Hostname.ip).Nodup) :
    (ofItems (Text.joinWith "," items)).value.Answers hosts where
  entries := hl.perm_entries
  ascending := hl.ascending hdistinct
  found := fun _ hmem _ ht =>
    lookup_of_mem (hl.ascending hdistinct) (hl.perm_entries.mem_iff.2 hmem) ht
  missing := fun _ ht => lookup_eq_none fun h hmem => ht h (hl.perm_entries.mem_iff.1 hmem)

/-- **Entries in ascending order are known** if it is known which they are. -/
theorem Answers.eq_of_perm {cache' : HostnameCache} {hosts' : List Hostname}
    (ha : cache.Answers hosts) (ha' : cache'.Answers hosts') (hp : hosts'.Perm hosts) :
    cache' = cache := by
  have hentries : cache'.entries = cache.entries :=
    List.Perm.eq_of_pairwise (fun a b _ _ hab hba => absurd (UInt32.lt_trans hab hba)
      (UInt32.lt_irrefl a.ip)) ha'.ascending ha.ascending
      (ha'.entries.trans (hp.trans ha.entries.symm))
  cases cache
  cases cache'
  exact congrArg HostnameCache.mk hentries

/-- **Every listed hostname is found, and nothing else is**, whatever is around the items and
between them and in whatever order they are. -/
theorem listed_hostnames_found {items : List String} {hosts : List Hostname}
    (hl : Lists items hosts) (hdistinct : (hosts.map Hostname.ip).Nodup) :
    (ofItems (Text.joinWith "," items)).value.Answers hosts ∧
      ∀ items' hosts', Lists items' hosts' → hosts'.Perm hosts →
        (ofItems (Text.joinWith "," items')).value = (ofItems (Text.joinWith "," items)).value := by
  refine ⟨hl.answers hdistinct, fun items' hosts' hl' hp => ?_⟩
  have hdistinct' : (hosts'.map Hostname.ip).Nodup := (hp.map _).nodup_iff.2 hdistinct
  exact (hl.answers hdistinct).eq_of_perm (hl'.answers hdistinct') hp

/-- Two items that give hostnames, and two malformed ones. -/
def Sample.hostnameItems : List String := [" 10.0.0.2 = node2 ", "bogus", "10.0.0.1=node=1", "=x"]

/-- The hostnames that the items give. -/
def Sample.hostnames : List Hostname := [⟨0x0A000002, "node2"⟩, ⟨0x0A000001, "node=1"⟩]

/-- A hostname with `=` in it, listed behind one of a larger address and a malformed item. -/
theorem hostname_found_behind_malformed :
    Lists Sample.hostnameItems Sample.hostnames ∧ (Sample.hostnames.map Hostname.ip).Nodup ∧
      (ofItems " 10.0.0.2 = node2 ,bogus,10.0.0.1=node=1,=x").value.lookup "10.0.0.1 " =
        some "node=1" := by
  have hl : Lists Sample.hostnameItems Sample.hostnames := by decide +kernel
  have hdistinct : (Sample.hostnames.map Hostname.ip).Nodup := by decide
  have htext : Text.joinWith "," Sample.hostnameItems =
      " 10.0.0.2 = node2 ,bogus,10.0.0.1=node=1,=x" := by decide
  have hanswers := (listed_hostnames_found hl hdistinct).1
  rw [htext] at hanswers
  refine ⟨hl, hdistinct, hanswers.found ⟨0x0A000001, "node=1"⟩ (by decide) _ ?_⟩
  exact ⟨[], [' '], List.forall_mem_nil _, List.forall_mem_singleton.2 (by decide),
    by decide +kernel⟩

end HostnameCache

end CloudNet
