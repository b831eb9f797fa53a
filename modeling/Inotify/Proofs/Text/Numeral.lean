/- # Reading numerals back

A run of items that pass a test is cut off in front of one that does not (`cut_append`), as a numeral is in
front of what is no digit. The digits of a number in a base up to sixteen, read in that base, give the number
again (`Numeral.numberOf_toDigits`), so a number is settled by its numeral. By induction on the number: all
digits but the last are those of its quotient by the base. The same induction says which characters the digits
are (`Numeral.exists_of_mem_toDigits`) and that only zero begins with a zero (`Numeral.eq_zero_of_toDigits`).
-/

import Inotify.Toml.Scalar

namespace Inotify

/-- **A run ends where the test fails.** -/
theorem cut_append {α : Type} {test : α → Bool} {run rest : List α} (hrun : ∀ a ∈ run, test a = true)
    (hrest : ∀ a ∈ rest.head?, test a = false) :
    (run ++ rest).takeWhile test = run ∧ (run ++ rest).dropWhile test = rest := by
  rw [List.takeWhile_append_of_pos hrun, List.dropWhile_append_of_pos hrun]
  rcases rest with _ | ⟨a, rest⟩
  · exact ⟨List.append_nil run, rfl⟩
  · have ha : test a = false := hrest a rfl
    simp [ha]

namespace Numeral

variable {base n : Nat} {c : Char}

/-- **A digit has its value.** -/
theorem hexValue?_digitChar {d : Nat} (hd : d < 16) : Toml.hexValue? (Nat.digitChar d) = some d := by
  have hall : ∀ d < 16, Toml.hexValue? (Nat.digitChar d) = some d := by decide
  exact hall d hd

/-- **One more digit** makes a number its multiple by the base, and the digit. -/
theorem numberOf_concat (ds : List Char) {d : Nat} (hd : d < 16) :
    Toml.numberOf base (ds ++ [Nat.digitChar d]) = base * Toml.numberOf base ds + d := by
  simp [Toml.numberOf, List.foldl_append, hexValue?_digitChar hd]

/-- **A numeral reads as its number.** -/
theorem numberOf_toDigits (hbase : 1 < base) (hmost : base ≤ 16) :
    Toml.numberOf base (Nat.toDigits base n) = n := by
  induction n using Nat.strongRecOn with
  | ind n ih =>
    rw [Nat.toDigits_eq_if hbase]
    by_cases hn : n < base
    · have hd : n < 16 := by omega
      simp [hn, Toml.numberOf, hexValue?_digitChar hd]
    · rw [if_neg hn]
      have hsmaller : n / base < n := Nat.div_lt_self (by omega) hbase
      have hlast : n % base < base := Nat.mod_lt n (by omega)
      rw [numberOf_concat _ (by omega), ih _ hsmaller, Nat.div_add_mod]

/-- **The digits of a numeral are digits below the base.** -/
theorem exists_of_mem_toDigits (hbase : 1 < base) (h : c ∈ Nat.toDigits base n) :
    ∃ d, d < base ∧ c = Nat.digitChar d := by
  induction n using Nat.strongRecOn with
  | ind n ih =>
    rw [Nat.toDigits_eq_if hbase] at h
    by_cases hn : n < base
    · rw [if_pos hn] at h
      exact ⟨n, hn, List.mem_singleton.1 h⟩
    · rw [if_neg hn] at h
      rcases List.mem_append.1 h with hfront | hlast
      · exact ih _ (Nat.div_lt_self (by omega) hbase) hfront
      · exact ⟨n % base, Nat.mod_lt n (by omega), List.mem_singleton.1 hlast⟩

/-- **Only zero begins with a zero.** -/
theorem eq_zero_of_toDigits {rest : List Char} (hbase : 1 < base) (hmost : base ≤ 16)
    (h : Nat.toDigits base n = '0' :: rest) : n = 0 := by
  induction n using Nat.strongRecOn generalizing rest with
  | ind n ih =>
    rw [Nat.toDigits_eq_if hbase] at h
    by_cases hn : n < base
    · rw [if_pos hn] at h
      have hzero : Nat.digitChar n = '0' := (List.cons.inj h).1
      have hvalue : some n = some 0 := by
        rw [← hexValue?_digitChar (by omega), hzero]
        rfl
      exact Option.some.inj hvalue
    · rw [if_neg hn] at h
      obtain ⟨d, ds, hds⟩ := List.exists_cons_of_ne_nil (Nat.toDigits_ne_nil (b := base) (n := n / base))
      rw [hds] at h
      obtain rfl : d = '0' := (List.cons.inj h).1
      have hquotient := ih _ (Nat.div_lt_self (by omega) hbase) hds
      have hpositive : 0 < n / base := Nat.div_pos (by omega) (by omega)
      omega

/-- **A decimal numeral begins with a digit.** -/
theorem toDigits_ten_cons (n : Nat) : ∃ d ds, Nat.toDigits 10 n = d :: ds ∧ d.isDigit = true := by
  obtain ⟨d, ds, hds⟩ := List.exists_cons_of_ne_nil (Nat.toDigits_ne_nil (b := 10) (n := n))
  have hmem : d ∈ Nat.toDigits 10 n := by simp [hds]
  exact ⟨d, ds, hds, Nat.isDigit_of_mem_toDigits (by decide) (by decide) hmem⟩

/-- **A signed numeral begins with a minus sign or a digit.** -/
theorem signed_cons (i : Int) :
    ∃ d ds, (signed i).toList = d :: ds ∧ (d = '-' ∨ d.isDigit = true) := by
  obtain ⟨d, ds, hds, hdigit⟩ := toDigits_ten_cons i.natAbs
  rw [signed, decimal, hds]
  split
  · exact ⟨'-', d :: ds, by simp, .inl rfl⟩
  · exact ⟨d, ds, by simp, .inr hdigit⟩

/-- **A signed numeral is made of digits** and perhaps a minus sign. -/
theorem mem_signed {i : Int} (h : c ∈ (signed i).toList) : c = '-' ∨ c.isDigit = true := by
  have hdigits : ∀ {d}, d ∈ Nat.toDigits 10 i.natAbs → d.isDigit = true := fun hd =>
    Nat.isDigit_of_mem_toDigits (by decide) (by decide) hd
  rw [signed, decimal] at h
  split at h
  · rw [String.toList_append, List.mem_append] at h
    rcases h with hminus | hd
    · exact .inl (by simpa using hminus)
    · exact .inr (hdigits (by simpa using hd))
  · rw [String.toList_ofList] at h
    exact .inr (hdigits h)

end Numeral
end Inotify
