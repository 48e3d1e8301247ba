import NetOpsBench.Models.InterfaceAliases

/-!
# The port names of generated scenarios

The generator of scenarios has its own way to the SONiC name of a port. On every label of the four
families it agrees with the one that the other components share.

`port_labels` has both ways, with their inverses; the step is `normalizeSonicInterface_of_isSpelling`.
-/

namespace NetOpsBench.Scenario
open Models

/-- `Ethernet` with the index of a port, if there is one. -/
def sonicName (port : Option ℕ) : Option String :=
  (port.filter (1 ≤ ·)).map fun port => ethernetName ((port - 1) * 4)

/-- `normalize_sonic_interface`, where the digits of `isdigit()` are decimal ones. -/
def normalizeSonicInterface (name : String) : String :=
  let raw := Python.strip name
  let vendor : Option String :=
    if "ethernet-1/".toList <:+: (lowerName raw).toList then
      -- `int(raw.split("/")[-1])`
      match Python.parseInt (.ofList (raw.toList.rtakeWhile (· ≠ '/'))) with
      | some idx => if 1 ≤ idx then some (ethernetName ((idx - 1) * 4).toNat) else none
      | none => none
    else none
  ((sonicPort raw).map ethernetName <|> sonicName (linuxPort raw) <|>
    sonicName ((afterWord "e1-".toList raw.toList).bind readDigits) <|> vendor).getD raw

/-- The last part of a label at its slashes. -/
theorem rtakeWhile_slash {word digits : List Char}
    (hword : word.map Char.toLower = LabelFamily.vendor.word) (hdigits : '/' ∉ digits) :
    (word ++ digits).rtakeWhile (· ≠ '/') = digits := by
  obtain ⟨start, last, rfl, hstart, hlast⟩ :=
    List.map_eq_append_iff.mp (hword.trans (show LabelFamily.vendor.word = "ethernet-1".toList ++ ['/']
      from rfl))
  obtain ⟨slash, rfl, hslash⟩ := List.map_eq_singleton_iff.mp hlast
  have hslash : slash = '/' := Python.eq_of_toLower_eq hslash (.inl (by decide))
  subst hslash
  rw [List.append_assoc, List.singleton_append, List.rtakeWhile, List.reverse_append,
    List.reverse_cons, List.append_assoc, List.takeWhile_append_of_pos,
    List.singleton_append, List.takeWhile_cons_of_neg (by simp), List.append_nil,
    List.reverse_reverse]
  intro c hc
  exact decide_eq_true fun h => hdigits (h ▸ List.mem_reverse.mp hc)

theorem sonicName_some {port : ℕ} (hport : 1 ≤ port) :
    sonicName (some port) = some (ethernetName ((port - 1) * 4)) := by
  rw [sonicName, Option.filter_some, if_pos (decide_eq_true hport), Option.map_some]

/-- On the labels of a port the generator has its SONiC name. -/
theorem normalizeSonicInterface_of_isSpelling {port : ℕ} {label : String} (hport : 1 ≤ port)
    (h : IsSpelling port label) :
    normalizeSonicInterface label = ethernetName ((port - 1) * 4) := by
  obtain ⟨family, word, digits, hstrip, hword, hdigits⟩ := h.strip
  have hlower : (lowerName (Python.strip label)).toList = family.word ++ digits := by
    rw [toList_lowerName, hstrip, List.map_append, hword, map_toLower_of_readDigits hdigits]
  have hthird : (afterWord "e1-".toList (Python.strip label).toList).bind readDigits =
      (afterWord "e1-".toList (family.word ++ digits)).bind readDigits := by
    rw [← hlower, toList_lowerName, afterWord_map_toLower, bind_readDigits_map_toLower]
  unfold normalizeSonicInterface
  dsimp only
  rw [← sonicPort_lowerName, ← linuxPort_lowerName, hthird]
  cases family with
  | sonic =>
    rw [sonicPort_of_sonic hlower hdigits]
    rfl
  | linux =>
    obtain ⟨hsonic, hlinux⟩ := ports_of_linux hlower hdigits
    rw [hsonic, hlinux, LabelFamily.number, sonicName_some hport]
    rfl
  | eStyle =>
    obtain ⟨hsonic, hlinux, -⟩ := ports_of_eStyle hlower hdigits
    have hsome : afterWord "e1-".toList (LabelFamily.eStyle.word ++ digits) = some digits :=
      afterWord_append (by decide)
    rw [hsonic, hlinux, hsome, Option.bind_some, hdigits, LabelFamily.number, sonicName_some hport]
    rfl
  | vendor =>
    obtain ⟨hsonic, hlinux, -⟩ := ports_of_vendor hlower hdigits
    have hnone : afterWord "e1-".toList (LabelFamily.vendor.word ++ digits) = none := by
      rw [show "e1-".toList = ['e', '1', '-'] from rfl,
        show LabelFamily.vendor.word = ['e', 't'] ++ "hernet-1/".toList from rfl, List.append_assoc]
      exact if_neg (by simp)
    have hslash : '/' ∉ digits := fun hmem =>
      absurd (isSome_decimal?_of_readDigits hdigits hmem) (by decide)
    have hoccurs : "ethernet-1/".toList <:+: (lowerName (Python.strip label)).toList :=
      ⟨[], digits, by rw [List.nil_append, hlower]; rfl⟩
    have hparse : Python.parseInt (.ofList digits) = some (port : ℤ) := by
      rw [Python.parseInt_digits (ne_nil_of_readDigits hdigits) fun c =>
        isSome_decimal?_of_readDigits hdigits, decimalValue_of_readDigits hdigits]
      rfl
    rw [hsonic, hlinux, hnone, if_pos hoccurs, hstrip, rtakeWhile_slash hword hslash, hparse]
    simp only [Nat.one_le_cast, hport, if_true]
    have hindex : (((port : ℤ) - 1) * 4).toNat = (port - 1) * 4 := by omega
    rw [hindex]
    rfl

/-! ## One normal form for each port -/

/-- The labels of a port: one normal form, which tells the ports apart, the two canonical names that
are read back from each other, equivalence as sameness of the port, and the name that the generator
has for it. -/
theorem port_labels (port : ℕ) (hport : 1 ≤ port) :
    (∀ label, IsSpelling port label → normalizeInterfaceName label = ethName port) ∧
      (∀ other, 1 ≤ other → other ≠ port → ∀ label label', IsSpelling port label →
        IsSpelling other label' → normalizeInterfaceName label ≠ normalizeInterfaceName label') ∧
      (toSonicInterface (ethName port) = ethernetName ((port - 1) * 4) ∧
        toLinuxInterface (ethernetName ((port - 1) * 4)) = ethName port) ∧
      (∀ other, 1 ≤ other → ∀ label label', IsSpelling port label → IsSpelling other label' →
        (areInterfacesEquivalent label label' ↔ port = other)) ∧
      ∀ label, IsSpelling port label →
        normalizeSonicInterface label = toSonicInterface label := by
  refine ⟨fun label h => h.normalize hport, ?_, ⟨?_, ?_⟩, ?_, ?_⟩
  · intro other hother hne label label' h h' hsame
    rw [h.normalize hport, h'.normalize hother] at hsame
    exact hne (ethName_inj hsame).symm
  · exact (isSpelling_ethName port).toSonic hport
  · exact (isSpelling_ethernetName port).toLinux hport
  · exact fun other hother label label' h h' => areInterfacesEquivalent_iff hport hother h h'
  · intro label h
    rw [normalizeSonicInterface_of_isSpelling hport h, h.toSonic hport]

/-- Some labels of the third port -/
theorem thirdPort_labels :
    normalizeInterfaceName " Ethernet-1/03 " = "eth3" ∧
      areInterfacesEquivalent " Ethernet-1/03 " "ETHERNET008" ∧
      normalizeSonicInterface " Ethernet-1/03 " = toSonicInterface " Ethernet-1/03 " := by
  have hvendor : IsSpelling 3 " Ethernet-1/03 " :=
    ⟨.vendor, [' '], "Ethernet-1/".toList, ['0', '3'], [' '], by decide,
      List.forall_mem_singleton.mpr (by decide), List.forall_mem_singleton.mpr (by decide),
      by decide, by decide +kernel⟩
  have hsonic : IsSpelling 3 "ETHERNET008" :=
    ⟨.sonic, [], "ETHERNET".toList, ['0', '0', '8'], [], by decide, nofun, nofun, by decide,
      by decide +kernel⟩
  obtain ⟨hnormal, -, -, hequivalent, hgenerator⟩ := port_labels 3 (by decide)
  exact ⟨hnormal _ hvendor, (hequivalent 3 (by decide) _ _ hvendor hsonic).mpr rfl,
    hgenerator _ hvendor⟩

end NetOpsBench.Scenario
