import EarlyMemory.Proofs.Arena.Replay
import EarlyMemory.Proofs.Session.Run

/-!
# Arenas of a session are isolated

The arenas of a session share one log and nothing else. What an arena answers, and the bounds, the
cursors and the counters that it shows, are decided by its last opening and the requests to it since
then (`reply_eq_of_sinceOpening_eq`). The switches of the arena, the calls that move no cursor, all
that came before the opening, the log with its threshold and its sink, and the other arenas have no
part in it.
-/

namespace EarlyMemory.Session

/-- Two scripts open an arena and make requests to it in the same way, as far as the last opening
is concerned. Whatever else they do, and to whichever other arenas, the next call to the arena has
the same answer in both, and the arena shows the same bounds, cursors and counters afterwards. -/
theorem reply_eq_of_sinceOpening_eq {n m : ℕ} {s : State n} {t : State m} {i : Fin n} {j : Fin m}
    {page : PageSize} {config config' : Arena.Config} (hs : s.arenas.get i = { page, config })
    (ht : t.arenas.get j = { page, config := config' }) {first : List (Step n)}
    {second : List (Step m)} (hfirst : s.Returns first) (hsecond : t.Returns second)
    (hsame : Arena.sinceOpening (callsTo i first) = Arena.sinceOpening (callsTo j second))
    (c : Arena.Call) (rest : List (Step n)) (rest' : List (Step m)) :
    ∃ answer after after',
      (s.run (first ++ .call i c :: rest))[first.length]?.map (·.value) =
          some (.answer answer after) ∧
        (t.run (second ++ .call j c :: rest'))[second.length]?.map (·.value) =
          some (.answer answer after') ∧
        after'.view = after.view := by
  -- an arena that has taken the calls that count, and no others, stands between the two
  let a : Arena := ({ page } : Arena).performAll (Arena.sinceOpening (callsTo i first))
  have halike : a.Alike ((s.after first).arenas.get i) := by
    rw [s.arenas_after, hs]
    exact (Arena.Alike.unopened page {} config).performAll _
  have halike' : a.Alike ((t.after second).arenas.get j) := by
    rw [t.arenas_after, ht]
    show (({ page } : Arena).performAll _).Alike _
    rw [hsame]
    exact (Arena.Alike.unopened page {} config').performAll _
  obtain ⟨hanswer, hafter⟩ := halike.perform c
  obtain ⟨hanswer', hafter'⟩ := halike'.perform c
  refine ⟨(a.perform c).answer, (((s.after first).arenas.get i).perform c).arena,
    (((t.after second).arenas.get j).perform c).arena, ?_, ?_,
    hafter'.view_eq.trans hafter.view_eq.symm⟩
  · rw [State.getElem?_run hfirst, ← hanswer]
    rfl
  · rw [State.getElem?_run hsecond, ← hanswer']
    rfl

/-- A silent session of one arena, and a talkative one of two with another past, a wrapped region
and a refused request on the way. -/
theorem reply_eq_after_another_past :
    let r : Region := { start := 0xFFFFFFFFFFFFE000, size := 0x5000 }
    let s : State 1 := { arenas := #v[{ page := .fourKib, config := { logFailures := false } }] }
    let t : State 2 :=
      { arenas := #v[{ page := ⟨64, by decide⟩ },
          { page := .fourKib, config := { traceGrants := true } }]
        logger := { sink := .recorder "a" } }
    let first : List (Step 1) :=
      [.call 0 (.init r), .call 0 (.alloc { size := 3, align := 8 }),
        .call 0 (.allocPages 9 4096), .call 0 (.allocPages 1 8192)]
    let second : List (Step 2) :=
      [.setThreshold .trace, .call 1 (.init { start := 0x100000, size := 0x1000 }),
        .call 1 (.alloc { size := 24, align := 8 }), .call 0 (.init r), .call 1 (.init r),
        .call 1 (.setConfig {}), .call 1 (.alloc { size := 3, align := 8 }), .setSink none,
        .call 1 (.release 0x100000 { size := 24, align := 8 }), .call 1 (.allocPages 9 4096),
        .call 0 (.alloc { size := 100, align := 4 }), .call 1 (.addMemory r),
        .call 1 (.allocPages 1 8192)]
    (s.Returns first ∧ t.Returns second ∧
        Arena.sinceOpening (callsTo 0 first) = Arena.sinceOpening (callsTo 1 second)) ∧
      ∃ answer after after',
        (s.run (first ++ [.call 0 .unusedRegion]))[4]?.map (·.value) =
            some (.answer answer after) ∧
          (t.run (second ++ [.call 1 .unusedRegion]))[13]?.map (·.value) =
            some (.answer answer after') ∧
          after'.view = after.view := by
  intro r s t first second
  have hfirst : s.Returns first := by decide
  have hsecond : t.Returns second := by decide
  have hsame : Arena.sinceOpening (callsTo 0 first) = Arena.sinceOpening (callsTo 1 second) := by
    decide
  exact ⟨⟨hfirst, hsecond, hsame⟩,
    reply_eq_of_sinceOpening_eq (s := s) (t := t) rfl rfl hfirst hsecond hsame .unusedRegion [] []⟩

end EarlyMemory.Session
