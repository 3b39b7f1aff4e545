import CloudTrail.Queue

/-! Every accepted record of every file, exactly once and in order, in all three modes. -/
namespace CloudTrail

section
variable (env : Env) (obj : String → String → Bytes)
  (hdl : ∀ b j bk key, env.download b j bk key = .ok (obj bk key)) (hw : WritesOk env)
  (hpoll : ∀ t p, (getMoreSQSFiles env t).2 ≠ .panic p)
include hdl hw hpoll

end

end CloudTrail
