/-!
# Warnings

What a request remarks on without failing.
-/

namespace Footprint

/-- The remarks. -/
inductive Warning where
  /-- An entry was gone when its size was asked for. -/
  | vanished (path : String)
  /-- A relation names an overflow table that is not in the catalog. -/
  | toastMissing (oid : Int)
  /-- There is no directory of further tablespaces. -/
  | linksMissing (directory : String)
  /-- A role may not see a database. -/
  | databaseDenied (role name : String)
  /-- A role may not see a tablespace. -/
  | tablespaceDenied (role name : String)
  deriving DecidableEq, Repr

/-- The text of a warning. -/
def Warning.text : Warning → String
  | vanished path => s!"[directory_size] 目录项已消失，跳过: {path}"
  | toastMissing oid => s!"[SizeCalculator] toast 表 {oid} 已不存在，按 0 计算"
  | linksMissing directory => s!"[SizeCalculator] 目录 {directory} 不存在，只统计默认表空间"
  | databaseDenied role name => s!"[AccessChecker] 角色 {role} 无权查看数据库 {name}"
  | tablespaceDenied role name => s!"[AccessChecker] 角色 {role} 无权查看表空间 {name}"

end Footprint
