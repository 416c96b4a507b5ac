import MemoStore.Failure.Basic
import MemoStore.Schema.Object
import MemoStore.Script

/-!
# The changelog

The statements that create the schema, for each backend that has one. They are kept
as scripts in creation order; the index that sets the two variants apart is not part
of a script and comes last.
-/

namespace MemoStore.Schema

/-- The script for MySQL. No statement tolerates an object that already exists. -/
def mysqlScript : String :=
"-- memo schema, MySQL 8
CREATE TABLE `user` (
  `id` int AUTO_INCREMENT NOT NULL,
  `name` varchar(256) NOT NULL,
  `code` varchar(256) NOT NULL,
  CONSTRAINT `user_id` PRIMARY KEY (`id`),
  CONSTRAINT `uniq_code` UNIQUE (`code`)
);
--> statement-breakpoint
CREATE TABLE `memo` (
  `id` int AUTO_INCREMENT NOT NULL,
  `created_at` timestamp NOT NULL DEFAULT CURRENT_TIMESTAMP,
  `updated_at` timestamp NOT NULL DEFAULT CURRENT_TIMESTAMP ON UPDATE CURRENT_TIMESTAMP,
  `user_id` int NOT NULL,
  `title` varchar(256) NOT NULL,
  `content` text NOT NULL,
  CONSTRAINT `memo_id` PRIMARY KEY (`id`)
);
--> statement-breakpoint
CREATE TABLE `tag` (
  `id` int AUTO_INCREMENT NOT NULL,
  `name` varchar(50) NOT NULL,
  `is_official` boolean NOT NULL DEFAULT false,
  `user_id` int,
  CONSTRAINT `tag_id` PRIMARY KEY (`id`)
);
--> statement-breakpoint
CREATE TABLE `memo_tag_relation` (
  `id` int AUTO_INCREMENT NOT NULL,
  `memo_id` int NOT NULL,
  `tag_id` int NOT NULL,
  CONSTRAINT `memo_tag_relation_id` PRIMARY KEY (`id`)
);
--> statement-breakpoint
ALTER TABLE `memo` ADD CONSTRAINT `memo_user_id_user_id_fk` FOREIGN KEY (`user_id`) REFERENCES `user` (`id`) ON DELETE CASCADE ON UPDATE NO ACTION;
--> statement-breakpoint
ALTER TABLE `tag` ADD CONSTRAINT `tag_user_id_user_id_fk` FOREIGN KEY (`user_id`) REFERENCES `user` (`id`) ON DELETE CASCADE ON UPDATE NO ACTION;
--> statement-breakpoint
ALTER TABLE `memo_tag_relation` ADD CONSTRAINT `memo_tag_relation_memo_id_memo_id_fk` FOREIGN KEY (`memo_id`) REFERENCES `memo` (`id`) ON DELETE CASCADE ON UPDATE NO ACTION;
--> statement-breakpoint
ALTER TABLE `memo_tag_relation` ADD CONSTRAINT `memo_tag_relation_tag_id_tag_id_fk` FOREIGN KEY (`tag_id`) REFERENCES `tag` (`id`) ON DELETE CASCADE ON UPDATE NO ACTION;
--> statement-breakpoint
-- A CHECK may not name a column with a referential action here, so the owner
-- rule is kept by two triggers that raise the message of a violated check.
CREATE TRIGGER `check_tag_owner_insert` BEFORE INSERT ON `tag` FOR EACH ROW
IF NOT ((NEW.`is_official` = TRUE AND NEW.`user_id` IS NULL)
    OR (NEW.`is_official` = FALSE AND NEW.`user_id` IS NOT NULL)) THEN
  SIGNAL SQLSTATE '45000' SET MESSAGE_TEXT = 'Check constraint ''check_tag_owner'' is violated.', MYSQL_ERRNO = 3819;
END IF;
--> statement-breakpoint
CREATE TRIGGER `check_tag_owner_update` BEFORE UPDATE ON `tag` FOR EACH ROW
IF NOT ((NEW.`is_official` = TRUE AND NEW.`user_id` IS NULL)
    OR (NEW.`is_official` = FALSE AND NEW.`user_id` IS NOT NULL)) THEN
  SIGNAL SQLSTATE '45000' SET MESSAGE_TEXT = 'Check constraint ''check_tag_owner'' is violated.', MYSQL_ERRNO = 3819;
END IF;
"

/-- The script for SQLite. Every statement leaves an existing object as it is. -/
def sqliteScript : String :=
"-- memo schema, SQLite
CREATE TABLE IF NOT EXISTS \"user\" (
  \"id\" integer PRIMARY KEY AUTOINCREMENT NOT NULL,
  \"name\" varchar(256) NOT NULL,
  \"code\" varchar(256) NOT NULL,
  CONSTRAINT \"uniq_code\" UNIQUE (\"code\")
);
--> statement-breakpoint
CREATE TABLE IF NOT EXISTS \"memo\" (
  \"id\" integer PRIMARY KEY AUTOINCREMENT NOT NULL,
  \"created_at\" timestamp NOT NULL DEFAULT CURRENT_TIMESTAMP,
  \"updated_at\" timestamp NOT NULL DEFAULT CURRENT_TIMESTAMP,
  \"user_id\" integer NOT NULL REFERENCES \"user\" (\"id\") ON DELETE CASCADE ON UPDATE NO ACTION,
  \"title\" varchar(256) NOT NULL,
  \"content\" text NOT NULL
);
--> statement-breakpoint
CREATE TABLE IF NOT EXISTS \"tag\" (
  \"id\" integer PRIMARY KEY AUTOINCREMENT NOT NULL,
  \"name\" varchar(50) NOT NULL,
  \"is_official\" boolean NOT NULL DEFAULT false,
  \"user_id\" integer REFERENCES \"user\" (\"id\") ON DELETE CASCADE ON UPDATE NO ACTION,
  CONSTRAINT \"check_tag_owner\" CHECK (
    (\"is_official\" = TRUE AND \"user_id\" IS NULL)
    OR
    (\"is_official\" = FALSE AND \"user_id\" IS NOT NULL)
  )
);
--> statement-breakpoint
CREATE TABLE IF NOT EXISTS \"memo_tag_relation\" (
  \"id\" integer PRIMARY KEY AUTOINCREMENT NOT NULL,
  \"memo_id\" integer NOT NULL REFERENCES \"memo\" (\"id\") ON DELETE CASCADE ON UPDATE NO ACTION,
  \"tag_id\" integer NOT NULL REFERENCES \"tag\" (\"id\") ON DELETE CASCADE ON UPDATE NO ACTION
);
--> statement-breakpoint
-- No column has an ON UPDATE here: a change of any other column that leaves
-- updated_at as it was refreshes it.
CREATE TRIGGER IF NOT EXISTS \"memo_touch_updated_at\"
AFTER UPDATE ON \"memo\" FOR EACH ROW
WHEN NEW.\"updated_at\" = OLD.\"updated_at\"
  AND (NEW.\"title\" IS NOT OLD.\"title\"
    OR NEW.\"content\" IS NOT OLD.\"content\"
    OR NEW.\"user_id\" IS NOT OLD.\"user_id\"
    OR NEW.\"created_at\" IS NOT OLD.\"created_at\")
BEGIN
  UPDATE \"memo\" SET \"updated_at\" = CURRENT_TIMESTAMP WHERE \"id\" = NEW.\"id\";
END;
"

/-- The statement that makes official and personal tag names unique, per backend. -/
def tagNameIndexSql : Backend → String
  | .mysql =>
    "CREATE UNIQUE INDEX `uniq_tag_name` ON `tag` (`name`, `is_official`, `user_id`)"
  | _ =>
    "CREATE UNIQUE INDEX IF NOT EXISTS \"uniq_tag_name\" ON \"tag\" (\"name\", \"is_official\", \"user_id\")"

/-- The refusal of a backend that has no changelog. -/
def unsupported (backend : Backend) : Failure :=
  .config ("unsupported database backend: " ++ backend.label)

/-- The script of a backend. -/
def script? : Backend → Option String
  | .mysql => some mysqlScript
  | .sqlite => some sqliteScript
  | .postgres => none

/-- The statements that create the schema of a variant, in order. -/
def statements (backend : Backend) (variant : Variant) : Except Failure (List String) :=
  match script? backend with
  | none => .error (unsupported backend)
  | some script =>
    .ok (Script.split script ++
      if variant.hasTagNameIndex then [tagNameIndexSql backend] else [])

/-- One statement of the changelog with the object it creates. -/
structure Step where
  sql : String
  creates : Object
  deriving DecidableEq, Repr

/-- The changelog of a variant as steps: every statement beside the object that it
creates. -/
def steps (backend : Backend) (variant : Variant) : Except Failure (List Step) :=
  (statements backend variant).map fun sqls =>
    (sqls.zip (createdObjects backend)).map fun (sql, object) => ⟨sql, object⟩

end MemoStore.Schema
