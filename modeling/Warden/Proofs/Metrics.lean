import Mathlib.Tactic.Ring
import Warden.Metrics

namespace Warden

namespace Duration

theorem nanos_eq (d : Duration) : d.nanos = d.seconds * 1000000000 + d.subsecond := by
  rw [seconds, subsecond]
  omega

/-- No nanosecond is lost between the two parts. -/
theorem nanos_divide (d : Duration) {n : Nat} (h : 0 < n) :
    (d.divide n).nanos = d.nanos / n := by
  have hseconds := Nat.div_add_mod d.seconds n
  have hsubsecond := Nat.div_add_mod d.subsecond n
  have hnanos : d.nanos = (d.seconds % n * 1000000000 + d.subsecond % n) +
      n * (d.seconds / n * 1000000000 + d.subsecond / n) := by
    calc d.nanos = (n * (d.seconds / n) + d.seconds % n) * 1000000000 +
          (n * (d.subsecond / n) + d.subsecond % n) := by
            rw [hseconds, hsubsecond, ← nanos_eq]
      _ = _ := by ring
  rw [hnanos, Nat.add_mul_div_left _ _ h, divide, ofParts]
  dsimp only
  omega

end Duration

namespace Tally

variable {t : Tally}

/-- An equal share of the total for each of the counted, rounded down to a nanosecond. -/
structure IsMean (t : Tally) (share : Duration) : Prop where
  le : share.nanos * t.count ≤ t.total.nanos
  lt : t.total.nanos < (share.nanos + 1) * t.count

theorem nanos_mean (h : 0 < t.count) :
    t.mean.nanos = t.total.nanos / min t.count greatestDivisor := by
  have hdivisor : 0 < min t.count greatestDivisor := Nat.lt_min.2 ⟨h, by decide⟩
  rw [mean, if_neg (Nat.pos_iff_ne_zero.1 h), Duration.nanos_divide _ hdivisor]

theorem isMean_of_le (h : 0 < t.count) (hle : t.count ≤ greatestDivisor) : t.IsMean t.mean where
  le := by
    rw [nanos_mean h, Nat.min_eq_left hle]
    exact Nat.div_mul_le_self _ _
  lt := by
    rw [nanos_mean h, Nat.min_eq_left hle]
    exact Nat.lt_mul_of_div_lt (Nat.lt_succ_self _) h

/-- A share for fewer than were counted is too great when what is left over is less than the shares of
the others. -/
theorem isMean_iff_of_lt (hlt : greatestDivisor < t.count) : t.IsMean t.mean ↔
    t.total.nanos / greatestDivisor * (t.count - greatestDivisor) ≤
      t.total.nanos % greatestDivisor := by
  have hdivisor : 0 < greatestDivisor := by decide
  have hmean : t.mean.nanos = t.total.nanos / greatestDivisor := by
    rw [nanos_mean (hdivisor.trans hlt), Nat.min_eq_right hlt.le]
  have htotal := Nat.div_add_mod t.total.nanos greatestDivisor
  have hcount : t.mean.nanos * t.count =
      greatestDivisor * (t.total.nanos / greatestDivisor) +
        t.total.nanos / greatestDivisor * (t.count - greatestDivisor) := by
    rw [hmean, Nat.mul_comm greatestDivisor, ← Nat.mul_add, Nat.add_sub_cancel' hlt.le]
  constructor
  · intro hshare
    have hle := hshare.le
    omega
  · intro hleft
    refine ⟨by omega, ?_⟩
    rw [hmean]
    calc t.total.nanos
        < (t.total.nanos / greatestDivisor + 1) * greatestDivisor :=
          Nat.lt_mul_of_div_lt (Nat.lt_succ_self _) hdivisor
      _ ≤ (t.total.nanos / greatestDivisor + 1) * t.count := Nat.mul_le_mul_left _ hlt.le

/-- The mean is right for any total and any count, but for the counts above the greatest divisor with
which a total leaves too little over. -/
theorem mean_exact_iff (h : 0 < t.count) : t.IsMean t.mean ↔
    ¬(greatestDivisor < t.count ∧ t.total.nanos % greatestDivisor <
      t.total.nanos / greatestDivisor * (t.count - greatestDivisor)) := by
  rcases Nat.lt_or_ge greatestDivisor t.count with hlt | hle
  · rw [isMean_iff_of_lt hlt, not_and, Nat.not_lt]
    exact ⟨fun hleft _ => hleft, fun hleft => hleft hlt⟩
  · exact ⟨fun _ hlapse => Nat.not_lt.2 hle hlapse.1, fun _ => isMean_of_le h hle⟩

/-- One more check than a divisor can count, and a nanosecond for each of them. -/
theorem mean_exact_above :
    let t : Tally := ⟨4294967296, ⟨4294967296⟩⟩
    0 < t.count ∧ t.IsMean t.mean ∧ t.mean = ⟨1⟩ := by
  intro t
  have hcount : 0 < t.count := by decide
  exact ⟨hcount, (mean_exact_iff hcount).2 (by decide), by decide⟩

/-- Twice as many checks as a divisor can count, and a nanosecond for each of them: the mean is told to
be two. -/
theorem mean_not_exact :
    let t : Tally := ⟨8589934592, .ofParts 8 589934592⟩
    0 < t.count ∧ t.mean = ⟨2⟩ ∧ t.IsMean ⟨1⟩ ∧ ¬t.IsMean t.mean := by
  intro t
  have hmean : t.mean = ⟨2⟩ := by decide
  refine ⟨by decide, hmean, ⟨by decide, by decide⟩, fun hshare => ?_⟩
  have hle := hshare.le
  rw [hmean] at hle
  exact absurd hle (by decide)

end Tally

end Warden
