import A2dp.CodecIndex
import A2dp.Error
import A2dp.Role

/-!
# Diagnostics

What an operation has to say beside its answer. A `Reported` value carries the records in the
order in which they arose; an operation without records is `quiet`.
-/

namespace A2dp

/-- The weight of a record, the least first. -/
inductive Level where
  | trace
  | debug
  | info
  | warn
  | error
  deriving DecidableEq, Repr

namespace Level

def text : Level → String
  | .trace => "TRACE"
  | .debug => "DEBUG"
  | .info => "INFO"
  | .warn => "WARN"
  | .error => "ERROR"

/-- Heavier levels have higher ranks. -/
def rank : Level → Nat
  | .trace => 0
  | .debug => 1
  | .info => 2
  | .warn => 3
  | .error => 4

end Level

/-- A record about an operation. -/
inductive Diagnostic where
  /-- No family has the key of the capability. -/
  | unregistered (key : CodecKey)
  /-- The key of the capability cannot be read. -/
  | unidentified (cause : Error)
  /-- The family does not take part in the role. -/
  | roleNotSupported (family : String) (role : Role)
  /-- The capability is not a configuration of its family. -/
  | notConfiguration (family : String) (cause : Error)
  /-- The header of a packet cannot count so many frames. -/
  | tooManyFrames (frames limit : UInt16)
  /-- The header of a packet could not be written. -/
  | headerNotWritten (cause : Error)
  /-- Two capabilities without a family are compared by their key alone. -/
  | comparedByKey (key : CodecKey)
  /-- No family answers for the index. -/
  | indexNotServed (index : CodecIndex)
  /-- The default capability of a family could not be written. -/
  | defaultNotWritten (family : String) (cause : Error)
  deriving DecidableEq, Repr

namespace Diagnostic

def level : Diagnostic → Level
  | .unregistered _ | .roleNotSupported _ _ | .comparedByKey _ => .trace
  | .notConfiguration _ _ | .tooManyFrames _ _ | .headerNotWritten _ | .indexNotServed _ => .debug
  | .unidentified _ | .defaultNotWritten _ _ => .warn

def message : Diagnostic → String
  | .unregistered key => "未注册的厂商编解码器: " ++ key.text
  | .unidentified cause => "能力缓冲区无法识别: " ++ cause.message
  | .roleNotSupported family role => family ++ " 不支持角色 " ++ role.text
  | .notConfiguration family cause => family ++ " 配置解析失败: " ++ cause.message
  | .tooManyFrames frames limit => s!"每包帧数 {frames.toNat} 超出上限 {limit.toNat}"
  | .headerNotWritten cause => "写入编解码器头部失败: " ++ cause.message
  | .comparedByKey key => "未注册的厂商编解码器 " ++ key.text ++ " 按身份键比较类型"
  | .indexNotServed index => "编解码器索引 " ++ index.name ++ " 所属的编解码器族未编译"
  | .defaultNotWritten family cause => family ++ " 写入默认能力失败: " ++ cause.message

end Diagnostic

/-- An answer with the records that arose on the way to it. -/
structure Reported (α : Type) where
  value : α
  records : List Diagnostic
  deriving Repr

namespace Reported

variable {α β : Type}

def quiet (value : α) : Reported α := ⟨value, []⟩

def noting (value : α) (record : Diagnostic) : Reported α := ⟨value, [record]⟩

/-- Changes the answer and keeps the records. -/
def map (f : α → β) (r : Reported α) : Reported β := ⟨f r.value, r.records⟩

/-- Goes on from an answer; the records of the second step follow those of the first. -/
def bind (r : Reported α) (f : α → Reported β) : Reported β :=
  ⟨(f r.value).value, r.records ++ (f r.value).records⟩

instance : Monad Reported where
  pure := quiet
  bind := bind

@[simp] theorem value_quiet (a : α) : (quiet a).value = a := rfl

@[simp] theorem records_quiet (a : α) : (quiet a).records = [] := rfl

@[simp] theorem value_noting (a : α) (d : Diagnostic) : (noting a d).value = a := rfl

@[simp] theorem records_noting (a : α) (d : Diagnostic) : (noting a d).records = [d] := rfl

@[simp] theorem value_map (f : α → β) (r : Reported α) : (r.map f).value = f r.value := rfl

@[simp] theorem records_map (f : α → β) (r : Reported α) : (r.map f).records = r.records := rfl

@[simp] theorem value_bind (r : Reported α) (f : α → Reported β) :
    (r.bind f).value = (f r.value).value := rfl

@[simp] theorem records_bind (r : Reported α) (f : α → Reported β) :
    (r.bind f).records = r.records ++ (f r.value).records := rfl

end Reported

end A2dp
