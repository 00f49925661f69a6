import A2dp.Probe.Console
import A2dp.Probe.HexInput
import A2dp.Probe.LogFile
import A2dp.Probe.Options
import A2dp.Probe.Report

/-!
# A run of the probe

The whole command line, over any file system: from the arguments to the exit code, both outputs
and the log file. A run first reads the log settings and makes the log file; then it lists the
families, prints the configuration of an index, tells how it is used, or reports on a capability,
whichever is asked for first in this order.
-/

namespace A2dp.Probe

open Text (Json)

variable {m : Type → Type} [Monad m]

/-- When a run takes place. -/
structure Moment where
  /-- The day, for the name of the log file. -/
  date : String
  /-- The time, for the records. -/
  time : String

inductive Failure where
  | settingsUnreadable (path : String)
  | settingsMalformed (path : String)
  | noLogDirectory (path : String)
  | noLogFile (step : LogStep) (fault : FileFault)
  | badInput (input : String) (fault : InputFault)
  | unknownIndex (name : String)
  | noDefault (index : CodecIndex)
  deriving DecidableEq, Repr

/-- The wording of a failure, with its cause below. -/
def Failure.message : Failure → String
  | .settingsUnreadable path => "读取日志配置失败: " ++ path
  | .settingsMalformed path => "解析日志配置失败: " ++ path
  | .noLogDirectory path => "创建日志目录失败: " ++ path
  | .noLogFile step fault =>
    "创建日志文件失败\n\nCaused by:\n    0: " ++ step.text ++ ": " ++ fault.text ++
      "\n    1: " ++ fault.text
  | .badInput input (.malformed cause) =>
    "无效的十六进制输入: " ++ input ++ "\n\nCaused by:\n    " ++ faultText cause
  | .badInput _ .empty => "能力缓冲区为空"
  | .unknownIndex name =>
    "未知的编解码器索引 '" ++ name ++ "', 可选: " ++
      ", ".intercalate (CodecIndex.all.map CodecIndex.name)
  | .noDefault index => "编解码器索引 " ++ index.name ++ " 没有厂商默认配置"

/-- What a run leaves behind. -/
structure Outcome where
  exitCode : UInt8
  stdout : String
  stderr : String
  /-- The path of the log file, where there is one. -/
  logFile : Option String
  /-- The lines of the log file. -/
  logText : String

/-- How the program is used, for a run without anything to do. -/
def banner : String :=
  line ("lanyin-probe 版本 " ++ Registry.version ++ " -- A2DP 厂商编解码器能力探测工具") ++
    line "" ++
    line "用法: lanyin-probe [选项] <十六进制能力缓冲区>" ++
    line "" ++
    line "选项:" ++
    line "  --json                 输出 JSON 格式" ++
    line "  --list-families        列出内置编解码器族" ++
    line "  --index <NAME>         打印编解码器索引的默认端点配置" ++
    line "  --content-protection   假定已启用内容保护 (aptX 由编译期 SCMS-T 开关决定)" ++
    line "  --log-config <PATH>    日志配置文件 (JSON)" ++
    line "  -v, -vv                提升日志级别" ++
    line "" ++
    line "示例:" ++
    line "  lanyin-probe 0a00ff2d010000aa001001" ++
    line "  lanyin-probe --index sink_ldac --json"

def usage : String := line "Usage: lanyin-probe [OPTIONS] [INPUT]"

def help : String :=
  line "A2DP 厂商编解码器能力探测工具" ++
    line "" ++
    usage ++
    line "" ++
    line "Arguments:" ++
    line "  [INPUT]  十六进制能力缓冲区 (可含空格, ':' 与 0x 前缀)" ++
    line "" ++
    line "Options:" ++
    line "      --json                输出 JSON 格式" ++
    line "      --list-families       列出内置编解码器族" ++
    line "      --index <NAME>        打印编解码器索引的默认端点配置 (如 source_ldac)" ++
    line "      --content-protection  查询 RTP 头策略时假定已启用内容保护" ++
    line "      --log-config <PATH>   日志配置文件 (JSON)" ++
    line "  -v, --verbose...          日志级别 (-v debug, -vv trace)" ++
    line "  -h, --help                Print help" ++
    line "  -V, --version             Print version"

/-- The settings in the text at a path. -/
def settingsOf (path : String) : Option String → Except Failure LogSettings
  | none => .error (.settingsUnreadable path)
  | some text =>
    match LogSettings.ofText? text with
    | none => .error (.settingsMalformed path)
    | some settings => .ok settings

/-- The log settings of a run. -/
def readSettings (fs : FileSystem m) : Option String → m (Except Failure LogSettings)
  | none => return .ok {}
  | some path => return settingsOf path (← fs.readText path)

/-- Makes the log file, where the settings ask for one, and gives its path. -/
def openLog (fs : FileSystem m) (settings : LogSettings) (date : String) :
    m (Except Failure (Option String)) := do
  if settings.fileOutput then
    match ← LogFile.create fs settings date with
    | .ok path => return .ok (some path)
    | .error (.noDirectory _) => return .error (.noLogDirectory settings.directory)
    | .error (.noFile step fault) => return .error (.noLogFile step fault)
  else return .ok none

/-- A document or its lines, as asked for. -/
def rendered (asJson : Bool) (json : Json) (text : String) : String :=
  if asJson then line json.pretty else text

/-- The default configuration of the index with a name. -/
def reportIndex (r : Registry) (name : String) : Reported (Except Failure EndpointReport) :=
  match CodecIndex.ofName? name with
  | none => .quiet (.error (.unknownIndex name))
  | some index =>
    (r.defaultEndpoint index).bind fun
      | some endpoint => (r.indexName index).map fun name => .ok ⟨index, name, endpoint⟩
      | none => .quiet (.error (.noDefault index))

/-- What is printed, or why nothing is. -/
def answer (r : Registry) (options : Options) : Reported (Except Failure String) :=
  if options.listFamilies then
    (r.families.mapM FamilyReport.make).map fun reports =>
      .ok <| rendered options.json (.array (reports.map FamilyReport.json))
        (String.join (reports.map FamilyReport.text))
  else
    match options.index, options.input with
    | some name, _ =>
      (reportIndex r name).map (·.map fun report => rendered options.json report.json report.text)
    | none, none => .quiet (.ok banner)
    | none, some input =>
      match readHex input.toList with
      | .error fault => .quiet (.error (.badInput input fault))
      | .ok b =>
        (CapabilityReport.make r b options.contentProtection).map fun report =>
          .ok (rendered options.json report.json report.text)

/-- The record that names the families of a registry. -/
def familiesRecord (r : Registry) : Record :=
  .ofProbe .debug ("已编译的编解码器族: " ++ Text.quotedList (r.families.map Family.name))

/-- The end of a run that fails before there are records. -/
def failed (failure : Failure) : Outcome where
  exitCode := 1
  stdout := ""
  stderr := line ("Error: " ++ failure.message)
  logFile := none
  logText := ""

/-- A run with its settings, once the log file is there. -/
def runWith (r : Registry) (time : String) (options : Options) (settings : LogSettings)
    (logFile : Option String) : Outcome :=
  let result := answer r options
  let records := familiesRecord r :: result.records.map Record.ofDiagnostic
  let shown := records.filter (consoleThreshold settings.consoleLevel options.verbosity).passes
  let console := String.join (shown.map fun record => record.consoleLine time)
  let logged := records.filter (fileThreshold options.verbosity).passes
  let logText := String.join (logged.map fun record => record.fileLine time)
  match result.value with
  | .ok text => ⟨0, text, console, logFile, logText⟩
  | .error failure =>
    ⟨1, "", console ++ line ("Error: " ++ failure.message), logFile, logText⟩

def runOptions (r : Registry) (fs : FileSystem m) (moment : Moment) (options : Options) :
    m Outcome := do
  match ← readSettings fs options.logSettings with
  | .error failure => return failed failure
  | .ok settings =>
    match ← openLog fs settings moment.date with
    | .error failure => return failed failure
    | .ok logFile => return runWith r moment.time options settings logFile

/-- A run of the probe with a registry. -/
def run (r : Registry) (fs : FileSystem m) (moment : Moment) (args : List String) : m Outcome :=
  match Invocation.ofArguments args with
  | .run options => runOptions r fs moment options
  | .help => return ⟨0, help, "", none, ""⟩
  | .version => return ⟨0, line ("lanyin-probe " ++ Registry.version), "", none, ""⟩
  | .misuse => return ⟨2, "", usage ++ "\nFor more information, try '--help'.\n", none, ""⟩

end A2dp.Probe
