/-!
# Strings interned at start

The runtime keeps one object for each of the names its loaded code uses, and for each of that
code's constant strings made only of ASCII letters, digits and underscores. When it makes
the code of a declared body, such a constant string of the body equal to one of these, but
not the same object, is replaced by the kept one, and a frozen set constant holding it is
made again. These are the lower-case names of two to twelve characters held that way once
the service and the modules it uses are loaded.
-/

namespace Storefront.Script

/-- The lower-case names held interned once the service is loaded, a line of them at a
time, separated by blanks. -/
def internedWordLines : List String := [
  "a2b_base64 a2b_hex a2b_qp a2b_uu a85decode a85encode a_list a_module a_name a_type",
  "ab abc abcs abiflags abort abs abs_paths abspath abstracts acc accept access",
  "accumulate aclose aclosing acos acosh acquire acquire_lock action active",
  "active_count adapt adapt_date adapters adaptive add add_argument add_flags add_note",
  "add_reader add_result add_shim add_writer addaudithook addgroup additional",
  "addpackage addr addr_info addr_infos addr_pair address addrinfo addrinfos addrlist",
  "addsitedir adler32 adobe af afs after ag ag_await ag_code ag_frame ag_running agen",
  "ainv aiosqlite aiter aix alarm alen algorithm alias aliased aliases alive all",
  "all_args all_bases all_bits all_errors all_suffixes all_tasks allocate allow_nan",
  "allowed allsimple alogger alpha alphabet already alt_path_sep alt_version altchars",
  "altsep altzone always amount ancdata anchors and and_ anext ann anno annotation",
  "annotations any api_version apilevel app_protocol append appendleft arc_offset",
  "arcdirpath architecture archive archive_dir archive_name arcname arg arg2value",
  "arg_list arg_names arg_to_fut arg_used arg_val arg_vals arg_value argname argnames",
  "argparse argrepr argrest args argtypes arguments argv argval arp array arraysize",
  "as_completed as_global as_utc as_utf8 ascii ascii_decode ascii_encode asctime",
  "asdict asend asin asinh asname assert_never assert_type assigned ast ast_obj",
  "astimezone astuple asyncgen asyncio at_eof atan atan2 atanh atexit atexit_call",
  "athrow atleast atof atoi atomic attach_loop attr attrgetter attrname attrs audit",
  "auto auto_valued av await awaitable b16decode b16encode b2a_base64 b2a_hex b2a_qp",
  "b2a_uu b32decode b32encode b32hexdecode b32hexencode b32rev b32tab b32tab2",
  "b64decode b64encode b85decode b85encode ba backlog backup base base64 base_chain",
  "base_dir base_events base_fields base_futures base_globals base_locals base_meta",
  "base_module base_name base_path base_prefix base_tasks basename bases bbb begin",
  "beta betavariate bid bin binary binary_file binary_form binascii bind bind_partial",
  "binop binop_rassoc bisect bisect_left bisect_right bit bit_count bit_length bits",
  "blake2b blake2s blank_re blanks blobopen block block_size blockfinder blocking",
  "blocks blocksize bltns body body_col0 body_lines bom_found bool boolop boolops",
  "bound boundary br braced branch break breakpoint broken bs_buf bstartswith buf",
  "buf_len buffer buffer_info buffered buffering buffers buflen bufsize build",
  "build_query builddate buildno buildtime builtin builtin_name builtin_ns",
  "builtin_vars builtins byte_view bytearray bytebuffer bytecode byteorder bytes",
  "bytes_ bytes_data bytes_le bytes_types bytesdecoded bytesencoded byteswap bz2",
  "bz_mode bzip2 bztar c2pread c2pwrite c_contiguous c_scanstring c_tokenizer ca_certs",
  "cache cache_clear cache_info cache_module cache_path cache_tag cache_token cached",
  "caches cadata cafile calcsize calendar call call_at call_later call_soon",
  "call_tracing callable callback callbacks cancel cancelled cancelling candidate",
  "canonname capath capitalize capture capwords caretspace case casefold cases cast",
  "cat catalog catch categories category cause cb cb_suppress cb_type cbrt ccc cdir ce",
  "ceil ceiling cell center cert cert_reqs cert_time certfile certs ch chain",
  "chained_exc chained_msg changed changes char character characters charbuffer",
  "charmap charname chars chars2 charset chdir check check_call check_output",
  "check_source checkcache checked checked_dict checked_enum checked_keys checkgroup",
  "checks chflags child childpos children chmod chmod_func choice choices chown chr",
  "chroot chunk chunks chunksize cipher ciphers class class_bases class_dict",
  "class_finder class_hash class_name classdict classes classmethod clauses clean",
  "cleandoc cleaned cleanup clear clear_frames clearcache clock_getres clock_seq close",
  "close_called close_fds closed closefd closegroup closerange closing cls cls_dict",
  "cls_fields cls_name cls_or_fn cls_or_self clsname cm cm_exit cmd cmp_op cmp_to_key",
  "cmpop cmpops cmsg_data cmsg_level cmsg_type co co_argcount co_cellvars co_code",
  "co_consts co_filename co_flags co_freevars co_lines co_linetable co_lnotab co_name",
  "co_names co_nlocals co_positions co_qualname co_stacksize co_varnames code code1",
  "code2 code_context code_info code_object code_segment codec codec_class",
  "codecaliases codecs codeobj codes col col_off col_offset collect collected",
  "collection collections colno column column_index columns comb combinations combine",
  "comma command comment comment_size comments commit common commonpath commonprefix",
  "communicate comp compact comparators compare compat compile compiler completed",
  "complex compress compress_ext compressed compression compressobj comps concat",
  "concurrent condgroup condition conditions condname conffile confstr conjugate",
  "conmade_cb conn connect connect_ex connected connection constants constraints",
  "constructor consts consumed contains content content_type contents context",
  "context_expr contextlib contextvars contiguous continue continued contline contstr",
  "conv conversion convert convert_date converter converters cookie_re copier copy",
  "copy2 copy_context copy_with copyfile copyfileobj copymode copyreg copyright",
  "copysign copystat copytree core coro coro_code coro_fn coro_fns coro_frame",
  "coro_name coro_repr coroutine coroutines cos cosh count counter counts covariant",
  "cp437_table cpathname cpu_count cpu_number cr_await cr_code cr_frame cr_origin",
  "cr_running cr_suspended crc crc32 crc_hqx create create_store create_task created",
  "credits critical csd csid csock ct ctermid ctime ctx cum_counts cum_weights cur_len",
  "cur_line cur_pid curdir curr curr_append curr_clear currency current current_loop",
  "current_task currentframe currsize cursor cursor_of cut_off cutoff cvkey cwd cycle",
  "cygwin daemon daemonic darwin data data_info data_len data_size data_types database",
  "dataclass dataclasses datacls datapath date datefmt datepart datetime day daylight",
  "days dbapi2 dc dcgettext dct dd de debug debug_log deco decode decodebytes decoded",
  "decodedbytes decodekey decoder decodevalue decoding_map decomp decomp_args",
  "decompress decorator dedent deep deepcopy def def_mod def_str default default_name",
  "default_node defaultdict defaults defcount defmod defpath degrees del_flags delattr",
  "delay delete deleter delim delimit delimit_if delimiter delitem delocalize delta",
  "denominator deop deoptmap depth deque dercert derive description descriptor dest",
  "dest_loop destination detach details dev dev1 dev2 dev_mode devnull devnull_fd dfs",
  "dgettext dict dict_attr dict_factory dict_items dict_keys dict_obj dict_values",
  "dictiter difference dig digest digest_size digestobj digits dims dir dir_fd dircase",
  "direction dirfd dirfd_closed dirlist dirname dirnames dironly dirpath dirs dis dis_",
  "disable disabled disassemble discard disco disconnected disk_usage dispatch",
  "dispatcher display_name displayhook dist distb distutils divmod dl dn dn_leftmost",
  "dn_remainder dnsnames do_handshake do_override do_setlocale do_visit_try doc",
  "docstring document documents done done_count dont_inherit dos dot dot_count drain",
  "draining drive dropwhile dry_run dst dstname dt dump dumps dup dup2 duplicates",
  "e_pattern ecomm ei elapsed elem element elements elen else elt elts emit empty",
  "emscripten enable enabled enc encode encodebytes encoded encodedkey encodekey",
  "encoder encodevalue encoding encodings end end_ end_col_off end_colno end_lineno",
  "end_lno end_offset end_time endmatch endpats endpos endprog endswith endtime",
  "ensure_ascii enter_result entered entries entry enum enum_class enum_dict",
  "enum_klass enum_member enum_method enum_type enumerate enumeration env env_base",
  "env_list environ environb envname envvars eof eof_received epoll epos epsilon eq",
  "eq_default equality erf erfc erowcol err err_filename err_msg errmsg errno",
  "errno_num error errorcode errors errpipe_data errpipe_read errread errwrite esc",
  "escape escape_char escaped et etype euro ev_args eval eval_str event event_list",
  "eventfd eventfd_read events ex exact exact_type exc exc_class exc_context",
  "exc_details exc_info exc_tb exc_text exc_type exc_val exc_value except excepthook",
  "exception exceptions excinfo excinst exctb exctype exe_dir exec exec_body",
  "exec_builtin exec_dynamic exec_func exec_module exec_prefix execl execle execlp",
  "execlpe executable execute executemany executor execv execve execvp execvpe",
  "exist_ok existing exists exit exit_method exit_thread exitcode exp exp2 expand",
  "expand_tabs expandtabs expanduser expandvars expected expected_pid expired expiring",
  "expline expm1 expovariate expr expr_context ext extend extended_arg extendleft",
  "extension extensions extra extra_args extra_group extra_groups extra_size extract",
  "extract_dir extract_tb extractall extrainfo extsep f1 f2 f_back f_bavail f_bfree",
  "f_blocks f_bsize f_builtins f_code f_contiguous f_favail f_ffree f_files f_flag",
  "f_frsize f_fsid f_globals f_lasti f_lineno f_locals f_name f_namemax f_trace fabs",
  "factorial factory failed fallback false fam family family_name fasttypes fatal",
  "faulthandler fchdir fchmod fchown fcntl fd fd2 fd_closed fdatasync fdel fdoc fdopen",
  "fds fds_to_keep fdst fdst_write feed_data feed_eof fetch_page fetchall fetchmany",
  "fetchone few fget field field_list field_name field_names field_spec fieldname",
  "fields fields_str file file_actions file_digest file_info file_name file_offset",
  "file_read file_size filemode filename filename2 filenames fileno fileobj fileout",
  "filepath files fill fill_suffix fillarg filling fillvalue filter filterfalse",
  "filters final finalbody finalize finalizer finally find find_cookie find_frozen",
  "find_loader find_module find_spec findall finder finditer findlabels findsource",
  "finished first first_args first_enum first_line first_task firstiter firstline",
  "fix_flags fixed fixed_ctx fixes fixup flag flag_mask flag_opt_map flags flags1",
  "flags2 flds float float_info floatstr flock floor floordiv flowinfo flush fmean",
  "fmod fmt fmt_spec fn fname fnames fnmatch fnmatchcase fold foldnuls foldspaces",
  "follow followlinks force fork fork_exec forkpty format format_cb format_exc",
  "format_field format_info format_list format_map format_spec format_stack format_tb",
  "formatarg formats formatted formatter formatvalue formatvarkw found found_method fp",
  "fp1 fp2 fpathconf fr frac frac_digits fragment fragments frame frame_exc frame_gen",
  "frameinfo framelist frames free freeze frexp from_bytes from_environ from_list",
  "from_name from_nanos from_op frombytes fromfd fromfile fromhex fromkeys fromlist",
  "fromname fromnid fromordinal fromunicode fromutc frozen frozenset fs fsdecode",
  "fsencode fset fsize fspath fsrc fsrc_read fstat fstatvfs fsum fsync ftruncate full",
  "full_path fullmatch fullname fullpath func func_call func_code func_name func_repr",
  "func_type func_wrapper funcname funcobj function functools fut future futures",
  "futures_set fw fwalk fxn g2rad gaierror gamma gammavariate garbage gather gauss",
  "gauss_next gc gcd ge gen generator generators generic_base genericpath get get_",
  "get_args get_blocking get_buffer get_ca_certs get_ciphers get_code get_coro",
  "get_count get_data get_debug get_field get_filename get_ident get_info get_key",
  "get_lines get_loop get_map get_name get_nowait get_obj get_objects get_origin",
  "get_path get_pid get_protocol get_source get_stack get_stats get_value get_win32",
  "getabsfile getaddr_func getaddrinfo getaliases getargs getargvalues getatime",
  "getattr getblock getblocking getbuffer getcallargs getclasstree getcodesize",
  "getcomments getctime getcwd getcwdb getdecoder getdoc getegid getencoder",
  "getencoding getenv getenvb geteuid getfile getfqdn getframeinfo getgid getgrnam",
  "getgrouplist getgroups gethostname getitem getitimer getlimit getline getlineno",
  "getlines getloadavg getlocale getlogin getmembers getmodule getmro getmtime",
  "getnameinfo getnode getopt getoutput getpeercert getpeername getpgid getpgrp getpid",
  "getppid getpriority getprofile getpwnam getpwuid getrandbits getreader getrefcount",
  "getregentry getresgid getresuid getsid getsignal getsize getsizeof getsockname",
  "getsockopt getsource getstate getsyi gettempdir gettempdirb getter gettext",
  "gettimeout gettrace getuid getuntil getuserbase getvalue getweakrefs getwhile",
  "getwidth getwriter getxattr gi_code gi_frame gi_running gi_suspended gi_yieldfrom",
  "gid gid_check gids given given_name glibc glibcversion glob glob0 glob1 glob_in_dir",
  "global_enum global_ns global_str global_vars globalns globals globals_ gmtime gname",
  "gnv gold_yoyo got_all gotit gr_gid group groupby groupdict groupindex grouping",
  "grouprefpos groups groupwidths grp gt guard gvars gvarset gz gzip gztar h_append",
  "handle handler handlers handles has_attrs has_deadlock has_ipv6 has_location",
  "has_magic has_ticket hasattr hasbytes hascased hascompare hasconst hasfree hash",
  "hash_action hash_based hash_bits hash_info hashlib hashvalue hasjabs hasjrel",
  "haslocal hasname hasnargs hasstr hdeut hdlr head header header_size heading heap",
  "heapify heappop heappush heappushpop heapq heapreplace help helper here herror hex",
  "hex_errno hexdigest hexdigits hexlify hexstr hexversion hi high high_bit hint hints",
  "history hits hkey hmac_digest hmac_new home homecls hook host host_ip hostname",
  "hosts hour hours how htonl htons http hx hyphen hypot i_c i_n iadd iand iconcat id",
  "id_func ident idle idna idpattern ids idx ie if_clause if_nameindex ifconfig",
  "ifloordiv ifs iglob ignore ignorechars ilshift imag imatmul imod impl import_",
  "import_error importlib importtime imul in incoming incomplete indecorator indent",
  "indent_str indents indentsize index indexgroup indices inet_aton inet_ntoa",
  "inet_ntop inet_pton inf infd infile info info_str infolist infos inheritable init",
  "init_frozen initgroups initial initialized initlist inner ino1 ino2 inode inp input",
  "input_view insert insert_shim insort insort_left insort_right inspect inst instance",
  "instr int int_ int_info integer inter interactive interesting interleave intern",
  "interrupt intersection interval inv invalid invert io ioctl ior ip ip_addr ipaddrs",
  "ipname ipow irshift is is_ is_active is_alive is_argument is_async is_attr",
  "is_builtin is_char is_class is_closed is_closing is_constant is_cpython",
  "is_dataclass is_dir is_enabled is_fifo is_file is_finalized is_frozen is_integer",
  "is_keyword is_link is_namespace is_not is_optional is_package is_reading is_related",
  "is_reload is_required is_running is_safe is_serving is_set is_socket is_subclass",
  "is_symlink is_sync is_toplevel is_tracing is_tracked is_typeddict is_unpacked",
  "is_valid is_zipfile isabs isabstract isalnum isalpha isascii isasyncgen isatty",
  "isawaitable isbuiltin isbytecode isbytes iscased isclass isclose iscode iscoroutine",
  "isdecimal isdigit isdir isdisjoint isenabled isep isfile isfinite isframe",
  "isfunction isfuture isgenerator isidentifier isinf isinstance iskeyword islambda",
  "islice islink islower ismethod ismodule ismount isnan isnumeric iso8601 isocalendar",
  "isoctal isoformat isolated isoweekday ispackage ispkg isprintable isqrt isroutine",
  "isspace isstring issubclass issubset issuperset istart istep istext istitle istop",
  "istraceback isub isupper it item item_no item_type item_yes itemcase itemgetter",
  "itemref items items_view itemsappend itemsize iter iter_fields iter_unpack iterable",
  "iterables iterator iterdecode iterdump iterencode itertools itr itruediv ixor java",
  "java_ver join joinuser json kappa kb keep_open keepends key key_value keyfile",
  "keylogfile keyrefs keyrepr keys keyword keyword_only keywords kill killpg kind",
  "klass klass_result known_paths kw kw_defaults kw_only kwarg kwargs kwargs_param",
  "kwd_attrs kwd_mark kwd_patterns kwdefaults kwds kwlist kwo_params kwonly",
  "kwonly_given kwonly_sig kwonlyargs kws label labels laddr laddr_infos lambd lambda",
  "lang lang_enc langname language lanscan lappend last last_cls last_exc last_file",
  "last_line last_name last_type last_value last_values lastgroup lasti lastindex",
  "lastline lastrowid latin1 lazycache lchmod lchown lcm ldexp le left left_anchor",
  "left_spaces leftover len length length_hint level level_op levelname levelno",
  "lexicon lexists lfamily lgamma lib libc libc_ver libcinit libcname libcversion",
  "libdir libdirs libedit library license limit limit_stage limited line line0withend",
  "line_number line_offset line_string linebuffer linecache linefmt lineno lineno_fmt",
  "lineno_width lines linesep linestarts link linkage linkto linux list list2cmdline",
  "list_of_data listdir listen listiter listxattr literal literal_eval literal_text",
  "literals little ljust lno lnum lo load load_module loader loader_class loader_state",
  "loaders loads loc local local_addr local_print local_sys local_vars locale",
  "locale_alias localeconv localename localetuple locality localize localns locals",
  "localtime location lock lock_held locked locked_lock lockf locks log log10 log1p",
  "log2 log_lines logger logging login_tty longname lookup lookup_error lookup_line",
  "lookup_lines lookup_name loop loop_factory loop_pid low low_fd lower lpos lru_cache",
  "lseek lshift lsock lst lstat lstrip lt ltext lz_mode lzma mac mac_ver machine",
  "machinery magic magic_check mailbox_id main main_task main_thread mainobject major",
  "make_archive make_encoder make_scanner makedev makedirs makefile makepath maketrans",
  "manager mant_dig manufacture many map map01 mapping mappingproxy maps margin",
  "margin_char markerid markers marshal mask match match_args match_case match_number",
  "math matmul max max_10_exp max_bits max_ev max_exp max_lines max_size maxarray",
  "maxdeque maxdict maxfds maxfrozenset maximum maxiter maxlen maxlevel maxlineno",
  "maxlist maxlong maxoffset maxother maxset maxsize maxsplit maxstring maxtuple",
  "maxunicode maybe mcls md5 me mean member member_list member_map member_name",
  "member_names member_type member_value members memlimit memo memo_get memoryview",
  "merge message meta meta_path metaclass metacls metadata metamro metavar meth method",
  "method_name methodcaller methods mi micro microsecond microseconds middle_name min",
  "min_10_exp min_exp minor minute minutes missed misses missing mixins mkdir mkdtemp",
  "mkfifo mknod mkstemp mktemp mktime mo mod mod_dict mod_name mode mode_code model",
  "modf modifier modifiers modify modname modnames modpath mods module module_dict",
  "module_info module_name module_repr module_type modules modulus mon_grouping",
  "monetary monotonic monotonic_ns month month_number months more_members most_common",
  "move move_to_end mp mro msecs msg msg_enum msg_lines msg_type msvcrt mtime mu mul",
  "multi_bits mutation mv n_fields n_sign_posn n_waiting name name_index name_node",
  "name_size named namedtuple namedtuple_ namelen namer namereplace names namespace",
  "nan nanos nanoseconds nargs native_id nbytes ncs ndigits ndim ne need_close",
  "need_context needcont needquote needs_input neg neg_value negate neglen nested",
  "netstat never new new_active new_arg new_args new_base new_bases new_child",
  "new_class new_exc new_f new_func new_future new_member new_name new_node new_param",
  "new_params new_path new_stack new_state new_target new_task new_type new_val",
  "new_values newargs newchars newcount newdata newfile newitem newlevel newline",
  "newlines newpath newset newsock nexc next next_f next_line next_task nextafter",
  "nextchar nfd nfinished nfuts nice nid nid2obj nkwargs nl nl_langinfo nlargest nlen",
  "nm_tpl no_site no_stock no_user_site node nodename nodes noexec nondirs nonlocals",
  "nonmember nonpositive normalize normcase normdir normpath not not_ not_done note",
  "notify notify_all now nparams ns nsmallest nsobj nt ntodo ntohl ntohs null",
  "nullcontext num num_args num_defaults num_excs num_fields num_pos num_tickets",
  "numbytes numchars numerator ob ob_type obj obj_dict obj_globals obj_locals obj_name",
  "obj_repr object object_hook oct octdigits offset offset_width ogid oid ok old",
  "old_arg old_exc old_loc old_node old_params old_value on once onceregistry one",
  "onerror op op_result oparg opargs opcode open open_code open_func opener opengroup",
  "openpty openssl_md5 openssl_sha1 operand operation operator operator_end",
  "operator_str opfunc opmap opname ops opt opt_level optimization optimize options",
  "opts or or_ ord order order_by order_id order_items ordered_by orders orelse",
  "organization orig_argv orig_enc orig_path orig_st orig_timeout origin original",
  "origname os os_arch os_name os_sendfile os_version osinfo other other_bases",
  "other_count other_tuple other_value out outer outfd outgoing output output_type",
  "overload override owner ownerclass p2cread p2cwrite p_sign_posn pack pack_into",
  "package pad padchars padded padding page paginate pair pairs pairs_append pairwise",
  "param param_name parameters params params_str paramstyle pardir parenlev parent",
  "parent_name parent_path parent_spec parentpos parents parse parse_args parse_array",
  "parse_date parse_float parse_int parse_name parse_object parse_string parser part",
  "partial partial_args parties partition parts pass pass_fds passline pat pat_len",
  "pat_str patch path path_dirs path_finder path_hook path_hooks path_list path_listb",
  "path_mtime path_parts path_repr path_sep path_stats path_tmp path_type pathconf",
  "pathext pathname paths pathsep patsearch pattern patterns pause paused pbkdf2_hmac",
  "pe peek peercert peername pending perc percent percents perf_counter perm",
  "permutations perror ph phrase pi pickle pickle_union pid pidfd pidfd_open pieces",
  "pii_hash pipe pipe2 pipesize pkgdir pkgpath pl placeholder plastic_yoyo platform",
  "platlibdir plen plistlib plural pm policy poll polling pool pop pop_all popen",
  "popen_args popenargs popitem popleft population port portions pos pos_count",
  "position positional positions posix posix_spawn posix_spawnp posixpath posonly_left",
  "posonlyargs possible post post_init postal_code pow ppc pre pread preadv precedence",
  "precedes predicate predicates preexec_fn prefix prefix1 prefix_len prefix_skip",
  "prefix_skip1 prefixappend prefixes prepare preset pretty_flags prev prev_col",
  "prev_line prev_row prevstring primary_char print print_ print_2 print_exc",
  "print_last print_list print_stack print_tb printable pro problems proc process",
  "process_time processed processor prod product product_code product_type prog",
  "program prompt propagate property proto protocol protocols protos proxy pseudomatch",
  "pthread_kill ptype public_bytes punct punctuation purge purpose push put put_nowait",
  "putenv putter pw_dir pw_uid pwd pwent pwrite pwritev py pycache pydoc python_build",
  "python_type qsize qualname quanta quantity query queue queues quiet quit quote",
  "quote_type quote_types r_addr r_expected raddr radians radix raise raise_signal",
  "randbelow randbytes randint random randrange range raw raw_data raw_decode raw_type",
  "rawblock rawmode rawsock rb rc re read read1 read_or_stop readable readall reader",
  "readexactly reading readinto readinto1 readline readline_doc readlines readlink",
  "readonly readsize readuntil readv ready real real_dst realpath reason reason_code",
  "received_exc recipients reconfigure record record_id record_type records recursive",
  "recv recv_fds recv_into recvfrom recvmsg recvmsg_into redirect reduce reductor",
  "reenable_gc ref ref_collect region_code register registry registry_key regs rel",
  "rel_list release release_lock releaselevel relfile reload relpath rem remainder",
  "remaining remote_addr remove remove_shim removedirs removeprefix removesuffix",
  "removexattr rename renames rendered reordered repeat repeated repl replace",
  "report_url repr repr1 repr_ repr_array repr_deque repr_dict repr_fmt repr_int",
  "repr_list repr_running repr_set repr_str repr_tuple reprlib req requested res",
  "res_str reschedule reset resetlocale resetting resolution resolved rest restore",
  "result results resume resume_cb ret retcode retsig return return_type return_value",
  "return_when returncode returns reuse_port reveal_type reverse reversed revision",
  "rfind right right_anchor right_spaces rightpos rindex rjust rl_gen rlcompleter",
  "rmdir rmtree rng rollback rollover root root_dir rootnode roots rotate round rounds",
  "row row_factory row_offset rowcount rows rpartition rpos rsa rshift rsplit rstrip",
  "rtext run run_forever run_one_coro runner runners running running_loop runs rv rw",
  "rwb s0 s1 s2 s_and_end s_args s_pattern s_vars sa safe safe_path samefile",
  "sameopenfile samestat sample san save_all save_cwd save_new saved_exc saved_state",
  "scan scan_once scandir scandir_it scanner scanstring sched_count sched_param",
  "sched_yield scls scopeid scrypt search second second_args seconds seed seed_bits",
  "seek seekable seen seen_default segment select selected selected_add selections",
  "selector selector_obj selectors self self_get self_isbound self_module self_name",
  "self_tuple self_wr selfref send send_fds send_signal sendall sendfile sendmsg",
  "sendto sent sentinel sep separated separator separators seplen seps seq seqtypes",
  "sequences serial server server_side servername session set set_blocking set_ciphers",
  "set_data set_debug set_iterator set_name set_protocol set_result setappend setattr",
  "setblocking setcopyright setdefault setegid seteuid setgid setgroups sethelper",
  "sethostname setitem setitimer setlimit setlocale setpgid setpgrp setpriority",
  "setprofile setquit setregid setresgid setresuid setreuid setsid setsigdef setsize",
  "setsockopt setstate setter settimeout settings settrace setuid setxattr sget sha1",
  "sha224 sha256 sha384 sha3_224 sha3_256 sha3_384 sha3_512 sha512 shake_128 shake_256",
  "shape shell shield shift shim shim_cb ship shorten shortname show_caches show_code",
  "show_lineno showrefcount showwarning shuffle shutdown shutdown_exc shutil si_band",
  "si_code si_errno si_pid si_signo si_status si_uid sig sig_params sigcls",
  "siginterrupt sigma sign sign_pos signal signaled signalnum signame signature",
  "signed_arg signum sigpending sigs_set sigset sigtimedwait sigwait sigwaitinfo",
  "simple simple_dict simple_enum simple_keys simple_value simplefilter sin sinfo",
  "single single_bits singles_mask sinh sio site_prefix sitedir sitedircase",
  "sitepackages size sizehint sizeof_digit skip skipkeys skipno skipyes sleep slice",
  "slice_value slot slots slotstate smb smod smsl smv sni_callback so sock sock_accept",
  "sock_connect sock_recv sock_send sock_sendall sock_sendto sock_timeout sockaddr",
  "socket socket_error socketpair sockets sockname sockno socktype softkwlist sort",
  "sort_keys sorted sorting_code source source_bytes source_hash source_loop",
  "source_mtime source_path source_size sourceget sourcematch soversion space_left",
  "spaces span spawnl spawnle spawnlp spawnlpe spawnv spawnve spawnvp spawnvpe spec",
  "spec_for_pip spec_op specialized specs splice split split_paths splitdrive splitext",
  "splitlines spos sqlite sqlite3 sqrt sr src srcentry srch_cls srch_obj srcname",
  "srcobj srowcol srw ss ssl ssl_context ssl_object ssl_protocol ssl_version",
  "sslcontext sslctx sslobj sslproto sslsock ssock st st_atime st_atime_ns st_blksize",
  "st_blocks st_ctime st_ctime_ns st_dev st_flags st_gid st_ino st_mode st_mtime",
  "st_mtime_ns st_nlink st_rdev st_size st_uid stack stack_effect stack_info",
  "stack_size stacklevel stage stages staggered starcount starmap start start_after",
  "start_list start_new start_offset start_server start_time start_tls started",
  "startline startpos starts_line startswith startupinfo stat stat_func stat_info",
  "stat_result state statement staticmethod statistics status statvfs std_fields",
  "stderr stderr_seq stdev stdin stdin_w stdlib stdlib_re stdout stdout_seq step stmd",
  "stmt stop stopped store store_false store_true storename str str_iterator strcoll",
  "stream streamreader streams streamwriter strerror strftime strict strict_mode",
  "strides string strings strip stripped strptime strsignal strstart struct",
  "struct_time strxfrm sts stuff style stype sub sub_verbose subargs subclass subcls",
  "subgroup subject sublocality submit subn suboffsets subparams subpattern subprocess",
  "substfunc substitute substr subtract suf suffix suffixes sum sunos5 super",
  "supports_fd suppress sw swapcase symbol symbols symlink symlinks sync sys",
  "sys_exc_info sys_module sys_version sysconf sysname system system_alias system_site",
  "t0 t1 t2 t_args t_result table tabsize tag tail tail_module tail_name tailappend",
  "takewhile tan tanh tar tarfile target target_name targetpath targets tarinfo tarobj",
  "task task_code task_done task_id taskgroups tasks tau tb tb_frame tb_lasti",
  "tb_lineno tb_next tcgetpgrp tcsetpgrp te tee tell tempdir tempfile template",
  "templates terminate terminator terse test texc text text_factory text_gen text_mode",
  "text_sig textdomain textwrap that thefile theta thing this this_failed this_index",
  "thread thread_id thread_info thread_time threading threads threadsafety throw ticks",
  "tid tilde time time_format time_low time_mid time_ns timedelta timegm timeout",
  "timeout_at timeouts timepart timer times times_result timespec timestamp timetuple",
  "timetz timezone title tlock tm_gmtoff tm_hour tm_isdst tm_mday tm_min tm_mon tm_sec",
  "tm_wday tm_yday tm_year tm_zone tmp_cls to to_bytes to_cancel to_close to_nanos",
  "to_remove to_thread tobytes toc_entry today todo tofile tok tok_name tok_type token",
  "token_range token_stream token_type tokeneater tokenize tokens toknum toks_append",
  "tokval tolist tolower toordinal top top_kind topdown topfd toppath toreadonly total",
  "total_sent tounicode tp tp_dict trace traceback tracemalloc trail translate transp",
  "transport transports traverse traverser tree triangular trsock true truediv trunc",
  "truncate truncated trust truth try ts tt ttyname tup tuple tuple_new tvars tvarset",
  "txt txt2obj typ type type_ type_comment type_hint type_ignore type_ignores",
  "type_name type_set typecode typecodes typed typename types typing tzinfo tzname",
  "tzset u1 u2 u3 uid ulp umask uname uname_result unaryop unbound uncancel undefined",
  "unfreeze unhexlify uni uni2 unicodedata uniform union unique unit_price units",
  "unix_events unix_shell unknown unlink unlocked unop unpack unpack_from unparse",
  "unparser unregister unsafe unsafe_hash unset unsetenv untokenize unused_data unwrap",
  "update update_str updatecache updated upper urandom urn usage use_args use_bytes",
  "use_srcentry used used_args user user_base user_site userbase userhome ut utc",
  "utcnow utcoffset utctimetuple utf8 utf8_mode utf_7_decode utf_7_encode utf_8",
  "utf_8_decode utf_8_encode util utime uuid uuid1 uuid3 uuid4 uuid5 uuid_bytes",
  "uuid_time v_repr val validate valrepr vals value valuerefs values valuestr var",
  "vararg varargs variable variant varkw varnames vars ve_exc vendor venv ver",
  "ver_nodot verbose verbosity verify verify_flags verify_mode vers version",
  "version_info versioninfo vformat view virtual_conf visit visit_ visit_alias",
  "visit_arg visitor vm_name vm_release vm_vendor vminfo vms_lib vxworks wait wait3",
  "wait4 wait_closed wait_flags wait_for wait_timeout waiter waiters waitid waitpid",
  "waittime wakeup walk walk_dirs walk_into walk_stack walk_tb walktree want wants",
  "warn warn_message warning warnings warnoptions warnopts was wasi watcher wb weakref",
  "weakref_slot week weekday weights were what when whence where which whitespace why",
  "width wildcards win win16 win32 win32_is_iot win32_ver winerror winner winner_index",
  "winreg winver with withitem word words wordsep_re wpid wr wrap wrap_bio wrap_future",
  "wrap_socket wrap_value wrapcol wrapped wrapped_sig wrapper wraps wrapt writable",
  "write write_eof write_item writelines writer writev writing x1 x2pi x509_asn xb",
  "xbar xoptions xor xz xztar year yield zero zf zfill zip zip_filename zip_iterator",
  "zip_longest zipfile zipimporter zlib zz"
]

/-- The lower-case names held interned once the service is loaded. -/
def internedWords : List String :=
  internedWordLines.flatMap fun l => (l.splitOn " ").filter (!·.isEmpty)

end Storefront.Script
