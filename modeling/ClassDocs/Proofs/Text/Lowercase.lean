import ClassDocs.Text.Lowercase

namespace ClassDocs

/-- A number that is no character stands for the character zero. -/
theorem toNat_ofNat_eq_or_eq_zero (n : Nat) : (Char.ofNat n).toNat = n ∨ (Char.ofNat n).toNat = 0 := by
  by_cases valid : n.isValidChar
  · left
    rw [Char.ofNat, dif_pos valid]
    rfl
  · right
    rw [Char.ofNat, dif_neg valid]
    rfl

section Capitals

/-- The code points of the letters of a run. -/
def CaseRun.codes (run : CaseRun) : List Nat :=
  List.range' run.first ((run.last - run.first) / run.step + 1) run.step

/-- The capital letters beyond ASCII, as the bits of a number. The dotted capital I stands in no run. -/
def capitals : Nat :=
  caseRuns.foldl (fun set run => run.codes.foldl (fun set code => set ||| 1 <<< code) set) (1 <<< 304)

/-- The lower-case form of a letter beyond ASCII is no capital letter, of ASCII or beyond. -/
theorem capitals_spec : ∀ run ∈ caseRuns, ∀ code ∈ run.codes, capitals.testBit code = true ∧
    capitals.testBit (code + run.shift).toNat = false ∧ 92 < code + run.shift := by
  decide +kernel

theorem CaseRun.mem_codes {run : CaseRun} {c : Char} (inside : run.contains c = true) :
    c.toNat ∈ run.codes := by
  simp only [CaseRun.contains, Bool.and_eq_true, decide_eq_true_eq, beq_iff_eq] at inside
  obtain ⟨⟨low, high⟩, step⟩ := inside
  have whole : c.toNat - run.first = run.step * ((c.toNat - run.first) / run.step) :=
    (Nat.mul_div_cancel' (Nat.dvd_of_mod_eq_zero step)).symm
  have bound : (c.toNat - run.first) / run.step ≤ (run.last - run.first) / run.step :=
    Nat.div_le_div_right (by omega)
  exact List.mem_range'.mpr ⟨(c.toNat - run.first) / run.step, by omega, by omega⟩

/-- A character outside ASCII that is no capital letter has no other lower-case form. -/
theorem lowerChar_of_not_capital {c : Char} (large : ¬ c.toNat < 128)
    (small : capitals.testBit c.toNat = false) : lowerChar c = [c] := by
  have dotted : capitals.testBit 304 = true := by decide +kernel
  have noDot : ¬ (c.toNat == 304) = true := by
    intro same
    rw [beq_iff_eq.mp same, dotted] at small
    cases small
  have noRun : caseRuns.find? (·.contains c) = none := by
    rw [List.find?_eq_none]
    intro run member inside
    rw [(capitals_spec run member _ (CaseRun.mem_codes inside)).1] at small
    cases small
  rw [lowerChar, if_neg large, if_neg noDot, noRun]

end Capitals

section Fixed

theorem forall_ascii {P : Char → Prop} (each : ∀ n < 128, P (Char.ofNat n)) {c : Char} (small : c.toNat < 128) :
    P c := by
  have here := each c.toNat small
  rwa [Char.ofNat_toNat] at here

theorem lowerChar_toLower {c : Char} (small : c.toNat < 128) : lowerChar c.toLower = [c.toLower] :=
  forall_ascii (P := fun c => lowerChar c.toLower = [c.toLower]) (by decide) small

theorem lowerChar_of_behind {c : Char} (behind : 92 < c.toNat) (small : c.toNat < 128) : lowerChar c = [c] :=
  forall_ascii (P := fun c => 92 < c.toNat → lowerChar c = [c]) (by decide) small behind

/-- What a character becomes in lower case stays as it is. -/
theorem lowerChar_of_mem {c d : Char} (member : d ∈ lowerChar c) : lowerChar d = [d] := by
  unfold lowerChar at member
  split at member
  · rename_i small
    rw [List.mem_singleton.mp member]
    exact lowerChar_toLower small
  · split at member
    · simp only [List.mem_cons, List.not_mem_nil, or_false] at member
      rcases member with rfl | rfl
      · decide
      · exact lowerChar_of_not_capital (by decide) (by decide +kernel)
    · split at member
      · rename_i run found
        have inside : run.contains c = true := by simpa using List.find?_some found
        obtain ⟨_, clear, behind⟩ := capitals_spec run (List.mem_of_find?_eq_some found) _
          (CaseRun.mem_codes inside)
        rw [List.mem_singleton.mp member]
        -- some letters beyond ASCII have a lower-case form in ASCII, such as the Kelvin sign
        rcases toNat_ofNat_eq_or_eq_zero (c.toNat + run.shift).toNat with code | zero
        · by_cases small : (Char.ofNat (c.toNat + run.shift).toNat).toNat < 128
          · exact lowerChar_of_behind (by omega) small
          · exact lowerChar_of_not_capital small (by rw [code]; exact clear)
        · have null : Char.ofNat (c.toNat + run.shift).toNat = Char.ofNat 0 := by
            rw [← Char.ofNat_toNat (Char.ofNat (c.toNat + run.shift).toNat), zero]
          rw [null]
          decide
      · rename_i large dotless _ none
        rw [List.mem_singleton.mp member, lowerChar, if_neg large, if_neg dotless, none]

/-- Either form of a small sigma stays as it is, like all other letters of a text in lower case. -/
theorem lowerChar_of_mem_lowerAfter {before text : List Char} {d : Char} (member : d ∈ lowerAfter before text) :
    lowerChar d = [d] := by
  induction text generalizing before with
  | nil => cases member
  | cons c rest ih =>
    rw [lowerAfter] at member
    rcases List.mem_append.mp member with here | later
    · split at here
      · have sigmas : d = Char.ofNat 962 ∨ d = Char.ofNat 963 := by
          split at here
          · exact Or.inl (List.mem_singleton.mp here)
          · exact Or.inr (List.mem_singleton.mp here)
        rcases sigmas with rfl | rfl
        · exact lowerChar_of_not_capital (by decide) (by decide +kernel)
        · exact lowerChar_of_not_capital (by decide) (by decide +kernel)
      · exact lowerChar_of_mem here
    · exact ih later

/-- A text whose characters all stay has no capital sigma, so what stands around a character does not
matter. -/
theorem lowerAfter_of_fixed {text : List Char} (before : List Char) (fixed : ∀ c ∈ text, lowerChar c = [c]) :
    lowerAfter before text = text := by
  induction text generalizing before with
  | nil => rfl
  | cons c rest ih =>
    have here := fixed c (List.mem_cons_self ..)
    have noSigma : ¬ (c.toNat == 931) = true := by
      intro same
      have sigma : c = Char.ofNat 931 := by rw [← Char.ofNat_toNat c, beq_iff_eq.mp same]
      have changes : lowerChar (Char.ofNat 931) ≠ [Char.ofNat 931] := by decide +kernel
      exact changes (sigma ▸ here)
    rw [lowerAfter, if_neg noSigma, here, ih _ fun d member => fixed d (List.mem_cons_of_mem _ member),
      List.singleton_append]

theorem lowercase_lowercase (text : String) : lowercase (lowercase text) = lowercase text := by
  rw [lowercase, lowercase, String.toList_ofList,
    lowerAfter_of_fixed [] fun c member => lowerChar_of_mem_lowerAfter member]

end Fixed

section Ascii

theorem toLower_eq_self_iff {c : Char} (small : c.toNat < 128) : c.toLower = c ↔ c.isUpper = false :=
  forall_ascii (P := fun c => c.toLower = c ↔ c.isUpper = false) (by decide) small

theorem lowerAfter_of_ascii {text : List Char} (before : List Char) (small : ∀ c ∈ text, c.toNat < 128) :
    lowerAfter before text = text.map Char.toLower := by
  induction text generalizing before with
  | nil => rfl
  | cons c rest ih =>
    obtain ⟨here, later⟩ := List.forall_mem_cons.mp small
    have noSigma : ¬ (c.toNat == 931) = true := by
      rw [beq_iff_eq]
      omega
    rw [lowerAfter, if_neg noSigma, lowerChar, if_pos here, ih _ later, List.map_cons, List.singleton_append]

theorem lowercase_of_ascii {text : String} (small : ∀ c ∈ text.toList, c.toNat < 128) :
    (lowercase text).toList = text.toList.map Char.toLower := by
  rw [lowercase, String.toList_ofList, lowerAfter_of_ascii [] small]

/-- A text in ASCII is in lower case if it has no capital letters. -/
theorem lowercase_eq_self_iff {text : String} (small : ∀ c ∈ text.toList, c.toNat < 128) :
    lowercase text = text ↔ ∀ c ∈ text.toList, c.isUpper = false := by
  have fixed : text.toList.map Char.toLower = text.toList.map id ↔ ∀ c ∈ text.toList, c.toLower = c :=
    List.map_inj_left
  rw [List.map_id] at fixed
  rw [← String.toList_inj, lowercase_of_ascii small, fixed]
  exact forall_congr' fun c => imp_congr_right fun member => toLower_eq_self_iff (small c member)

end Ascii

end ClassDocs
