import LoadHarness.Proofs.Text
import LoadHarness.Report.Progress

/-!
# What a progress line shows

The line of a window can be read back : in front come the requests, which fix the rate and both
shares, and then the counts of which the shares are told, and the clients (`progressLine_inj`). So
two windows of one interval that are printed alike show the same activity.
-/

namespace LoadHarness.Report

variable {count count' requests : Nat} {label : String} {rest rest' : List Char}

theorem toList_ratio (count requests : Nat) (label : String) :
    (ratio count requests label).toList =
      (Text.numeral count).toList ++ (" ".toList ++ (label.toList ++
        if 0 < requests then
          " (".toList ++ ((Text.percentage count requests).toList ++ "%)".toList)
        else " (no responses received!)".toList)) := by
  unfold ratio
  split <;> simp only [String.toList_append, List.append_assoc]

/-- A count can be read back from what is told of it. -/
theorem ratio_append_inj
    (h : (ratio count requests label).toList ++ rest
      = (ratio count' requests label).toList ++ rest') : count = count' ∧ rest = rest' := by
  have hspace (text : List Char) : ∀ c ∈ (" ".toList ++ text).head?, c.isDigit = false := by simp
  have hcounts : count = count' := by
    rw [toList_ratio, toList_ratio, List.append_assoc, List.append_assoc, List.append_assoc,
      List.append_assoc] at h
    exact (Text.numeral_append_inj (hspace _) (hspace _) h).1
  subst hcounts
  exact ⟨rfl, List.append_cancel_left h⟩

theorem toList_progressLine (window : Delta) (current : Snapshot) (interval : Duration) :
    (progressLine window current interval).toList =
      (Text.numeral window.sent).toList ++ (" requests (".toList ++
        ((Text.numeral (rate window.sent interval)).toList ++ (" reqs/s, ".toList ++
          ((ratio window.retransmissions window.sent "retransmissions").toList ++ (", ".toList ++
            ((ratio window.errors window.sent "transmission errors").toList ++ (", ".toList ++
              ((Text.numeral current.active).toList ++ " clients)".toList)))))))) := by
  simp only [progressLine, retransmissionRatio, errorRatio, String.toList_append, List.append_assoc]

/-- A line shows the activity of its window, and the clients at the end of it. -/
theorem progressLine_inj {window window' : Delta} {current current' : Snapshot}
    {interval : Duration}
    (h : progressLine window current interval = progressLine window' current' interval) :
    window = window' ∧ current.active = current'.active := by
  have hrequests (text : List Char) :
      ∀ c ∈ (" requests (".toList ++ text).head?, c.isDigit = false := by simp
  have hclients : ∀ c ∈ " clients)".toList.head?, c.isDigit = false := by simp
  obtain ⟨sent, retransmissions, errors⟩ := window
  obtain ⟨sent', retransmissions', errors'⟩ := window'
  have htext := congrArg String.toList h
  rw [toList_progressLine, toList_progressLine] at htext
  dsimp only at htext
  obtain ⟨rfl, hrate⟩ := Text.numeral_append_inj (hrequests _) (hrequests _) htext
  -- The rate is fixed by the requests, and so is the way in which each share is told.
  have hshares := List.append_cancel_left (List.append_cancel_left
    (List.append_cancel_left hrate))
  obtain ⟨rfl, herrors⟩ := ratio_append_inj hshares
  obtain ⟨rfl, hactive⟩ := ratio_append_inj (List.append_cancel_left herrors)
  exact ⟨rfl, (Text.numeral_append_inj hclients hclients (List.append_cancel_left hactive)).1⟩

end LoadHarness.Report
